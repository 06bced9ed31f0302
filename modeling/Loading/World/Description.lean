import Loading.Text.Quoted
import Loading.World.Basic

/-!
# Descriptions

One-line descriptions of loaders, libraries and contexts for people who look for
a fault.  They show structure, not state: a name in quotes, a list in brackets,
and two dots for what is left out.
-/

namespace Loading

/-- A described value with its fields; `more` says that others are left out. -/
def describeFields (name : String) (fields : List (String × String)) (more : Bool) : String :=
  let shown := fields.map (fun f => f.1 ++ ": " ++ f.2) ++ if more then [".."] else []
  name ++ " \x7b " ++ ", ".intercalate shown ++ " \x7d"

/-- The description of a loader number. -/
def LoaderId.description (id : LoaderId) : String :=
  "LoaderId(" ++ toString id.val ++ ")"

/-- The description of a loader. -/
def Loader.description (l : Loader) : String :=
  describeFields "LoaderNode"
    [("id", l.id.description),
     ("kind", Text.quote l.level.kind.name),
     ("parent", match l.parent? with
       | none => "None"
       | some p => "Some(" ++ p.id.description ++ ")"),
     ("parallel", toString l.level.parallel)] true

/-- The description of the registry of libraries: what belongs to no loader. -/
def LibraryRegistry.description (r : LibraryRegistry) : String :=
  describeFields "NativeLibraryManager"
    [("builtin", Text.bracket ((r.names .builtin).map Text.quote)),
     ("system", Text.bracket ((r.names .system).map Text.quote))] false

/-- The description of a search path. -/
def SearchPath.description (p : SearchPath) : String :=
  describeFields "LibrarySearchPath"
    [("system_paths", Text.bracket (p.system.map Text.quote)),
     ("user_paths", Text.bracket (p.user.map Text.quote))] false

/-- The description of the rules for names. -/
def NameRules.description (r : NameRules) : String :=
  describeFields "NameRules"
    [("reserved_prefix", Text.quote r.reservedPrefix),
     ("allow_reserved_prefix", toString r.allowReservedPrefix),
     ("allow_array_syntax", toString r.allowArraySyntax)] false

/-- The description of settings. -/
def Config.description (c : Config) : String :=
  describeFields "LoaderConfig"
    [("name_rules", c.names.description),
     ("default_assertion_status", toString c.assertionsByDefault)] false

/-- The description of a context, with that of the libraries it uses. -/
def Context.description (c : Context) (r : LibraryRegistry) : String :=
  describeFields "LoaderContext"
    [("native_libraries", r.description),
     ("library_search_path", c.search.description),
     ("config", c.config.description)] true

end Loading
