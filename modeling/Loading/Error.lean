import Loading.FileSystem
import Loading.Name
import Loading.Scope

/-!
# Errors

What can go wrong, as causes, and the one wording of each cause.  A
`LoadError` is about modules, a `LibraryError` about native libraries.  A
collaborator may fail for reasons of its own, which it puts into words; every
type of reason has a constructor for that.
-/

namespace Loading

/-- Why bytes did not become a module. -/
inductive DefinitionFault where
  /-- The loader knows a module of that name already. -/
  | duplicate
  /-- The part of the bytes to be used does not lie within them. -/
  | range (start stop length : Nat)
  /-- The definer made a module of another name. -/
  | renamed (name : Name)
  /-- The definer gave the module to another loader. -/
  | attributed (loader : LoaderId)
  /-- No name was given, and the bytes tell none. -/
  | nameless
  /-- There are no bytes. -/
  | emptyBody
  /-- The file with the bytes cannot be read. -/
  | unreadable (path : String) (error : FileError)
  /-- A reason that a collaborator put into words. -/
  | stated (reason : String)
  deriving Repr, DecidableEq

/-- The wording of why bytes did not become a module. -/
def DefinitionFault.message : DefinitionFault → String
  | .duplicate => "duplicate module definition"
  | .range start stop length =>
      "range " ++ toString start ++ ".." ++ toString stop ++ " outside " ++ toString length ++
        " byte(s)"
  | .renamed name => "definer produced module " ++ name
  | .attributed loader => "definer attributed module to " ++ loader.display
  | .nameless => "module name cannot be derived from opaque bytes"
  | .emptyBody => "empty module body"
  | .unreadable path error => "cannot read " ++ path ++ ": " ++ error.message
  | .stated reason => reason

/-- What can go wrong with modules. -/
inductive LoadError where
  /-- Nobody has a module of that name. -/
  | notFound (name : Name)
  /-- The name breaks a rule. -/
  | invalidName (name : Name) (fault : NameFault)
  /-- The module could not be defined. -/
  | definition (name : Name) (fault : DefinitionFault)
  /-- The signers differ from those of the package. -/
  | signerMismatch (module package : String)
  /-- The module could not be linked. -/
  | link (name : Name) (reason : String)
  /-- The access policy refused. -/
  | accessDenied (what : String)
  deriving Repr, DecidableEq

namespace LoadError

/-- Does the error say that nobody has the module? -/
def isNotFound : LoadError → Bool
  | .notFound _ => true
  | _ => false

/-- The wording of an error about modules. -/
def message : LoadError → String
  | .notFound name => "module not found: " ++ name
  | .invalidName name fault => "invalid module name '" ++ name ++ "': " ++ fault.message
  | .definition name fault => "failed to define module '" ++ name ++ "': " ++ fault.message
  | .signerMismatch module package =>
      "signer information of module '" ++ module ++
        "' does not match signer information of other modules in package '" ++ package ++ "'"
  | .link name reason => "failed to link module '" ++ name ++ "': " ++ reason
  | .accessDenied what => "access denied: " ++ what

end LoadError

/-- Why a library was not found. -/
inductive LinkFault where
  /-- No candidate was there, out of so many. -/
  | searched (locations : Nat)
  /-- The last candidate that was there could not be loaded. -/
  | lastFailure (library reason : String)
  /-- There is no file at the path. -/
  | noSuchFile
  /-- A reason that a collaborator put into words. -/
  | stated (reason : String)
  deriving Repr, DecidableEq

/-- The wording of a failed load. -/
def loadFailedMessage (library reason : String) : String :=
  "can't load library " ++ library ++ ": " ++ reason

/-- The wording of why a library was not found. -/
def LinkFault.message : LinkFault → String
  | .searched locations => "searched " ++ toString locations ++ " location(s)"
  | .lastFailure library reason => loadFailedMessage library reason
  | .noSuchFile => "no such file"
  | .stated reason => reason

/-- What can go wrong with native libraries. -/
inductive LibraryError where
  /-- No library of that name could be found. -/
  | unsatisfiedLink (name : String) (fault : LinkFault)
  /-- Another scope owns the library. -/
  | collision (name : String) (owner requester : Scope)
  /-- The dynamic loader refused the library. -/
  | loadFailed (name reason : String)
  /-- The list does not hold the library. -/
  | notLoaded (name : String)
  deriving Repr, DecidableEq

namespace LibraryError

/-- May a search go on with the next candidate after the error? -/
def isRecoverable : LibraryError → Bool
  | .loadFailed _ _ => true
  | _ => false

/-- The wording of an error about native libraries. -/
def message : LibraryError → String
  | .unsatisfiedLink name fault => "no " ++ name ++ " in library path: " ++ fault.message
  | .collision name owner requester =>
      "native library " ++ name ++ " already loaded by " ++ owner.display ++
        "; cannot load it for " ++ requester.display
  | .loadFailed name reason => loadFailedMessage name reason
  | .notLoaded name => "native library " ++ name ++ " is not loaded in this scope"

end LibraryError

end Loading
