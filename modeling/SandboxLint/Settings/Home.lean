import SandboxLint.Path

/-!
Home directories. A relative path whose first part begins with a tilde lies in one:
in that of the user for a tilde alone, else in that of the account whose name follows.
-/

namespace SandboxLint

/-- Where home directories are. -/
structure Home where
  own : String := "/root"
  accounts : List (String × String) :=
    [("root", "/root"), ("daemon", "/usr/sbin"), ("bin", "/bin"), ("sys", "/dev"),
      ("sync", "/bin"), ("games", "/usr/games"), ("man", "/var/cache/man"),
      ("lp", "/var/spool/lpd"), ("mail", "/var/mail"), ("news", "/var/spool/news"),
      ("uucp", "/var/spool/uucp"), ("proxy", "/bin"), ("www-data", "/var/www"),
      ("backup", "/var/backups"), ("list", "/var/list"), ("irc", "/run/ircd"),
      ("_apt", "/nonexistent"), ("nobody", "/nonexistent")]
  deriving DecidableEq, Repr, Inhabited

namespace Home

/-- The directory that the name behind a tilde stands for. -/
def directory? (home : Home) (name : String) : Option String :=
  if name == "" then some home.own else List.lookup name home.accounts

/-- A directory without slashes at its end; the root when nothing else is left. -/
def trimmed (directory : String) : String :=
  match (directory.toList.reverse.dropWhile (· == '/')).reverse with
  | [] => "/"
  | cs => String.ofList cs

/-- A path with the home directory in place of its tilde; none when that is unknown. -/
def expand? (home : Home) (path : Path) : Option Path :=
  match path.root, path.parts with
  | .relative, first :: rest =>
      match first.toList with
      | '~' :: name =>
          match (home.directory? (String.ofList name)).map trimmed with
          | some directory =>
              if Text.startsWith directory "~" then none
              else some ((Path.parse directory).join { parts := rest })
          | none => none
      | _ => some path
  | _, _ => some path

end Home
end SandboxLint
