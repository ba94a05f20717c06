/-!
# Why an object key is refused
-/

namespace ImageWorker

inductive KeyFault where
  | noDirectory (key : String)
  | noFileName (key : String)
  | noExtension (key : String)
  /-- The key would leave the staging directory. -/
  | unsafePath (key : String)
  | other (why : String)
  deriving DecidableEq, Repr

def KeyFault.message : KeyFault → String
  | noDirectory key => "'" ++ key ++ "' has no directory segment"
  | noFileName key => "'" ++ key ++ "' has no usable file name"
  | noExtension key => "'" ++ key ++ "' has no extension to replace"
  | unsafePath key => "'" ++ key ++ "' cannot be staged locally"
  | other why => why

end ImageWorker
