import EventDispatch.Text.LowerCase
/-!
Profiles.

Purpose: the name of the surroundings a router runs in, which picks variants of configuration files.
Case does not matter, and the two usual profiles have short names too.

Main exports: `Profile`, `Profile.parse`, `Profile.name`.
-/

namespace EventDispatch

/-- The surroundings of a router. -/
inductive Profile where
  | development
  | production
  | custom (name : String)
deriving DecidableEq, Repr, Inhabited

namespace Profile

/-- The profile of a name. -/
def parse (text : String) : Profile :=
  match Text.lowerCase text with
  | "production" => .production
  | "prod" => .production
  | "development" => .development
  | "dev" => .development
  | name => .custom name

/-- The name of a profile, as it stands in the names of files. -/
def name : Profile → String
  | .development => "development"
  | .production => "production"
  | .custom name => name

end Profile
end EventDispatch
