import KeyNotation.Relation.Wildcard

/-!
# Errors

What can be wrong with a key, an entry, a join mark or the settings, as causes; the wording of each
is in `Fault.reason`, `SettingsFault.detail`, `FileFault.text` and `KeyError.message` alone.
-/

namespace KeyNotation

/-! ## causes -/

/-- Why a key or an entry is not of its form. -/
inductive Fault where
  | noTerminator
  | repeatedWildcard (w : Wildcard)
  | loneQuestion
  | logicSign (stem : Text)
  | noTable
  | valueNotText
  | valueNotReference
  | other (reason : Text)
  deriving DecidableEq, Repr

/-- Why the text of a settings file gives no settings. -/
inductive SettingsFault where
  | notToml
  | formatNotTable
  | toggleNotBoolean
  | other (detail : Text)
  deriving DecidableEq, Repr

/-- Why a file gives no text. -/
inductive FileFault where
  | notFound
  | notDirectory
  | isDirectory
  | notUtf8
  deriving DecidableEq, Repr

/-- Where a key stands: the mark of the join, the table joined, and the key as it was written. -/
structure Site where
  join : Text
  table : Text
  key : Text
  deriving DecidableEq, Repr

inductive KeyError where
  | malformed (site : Site) (fault : Fault)
  | badName (site : Site) (name : Text)
  | unknownJoin (mark table path : Text)
  | settings (fault : SettingsFault)
  | file (fault : FileFault)
  deriving DecidableEq, Repr

/-! ## wording -/

def Fault.reason : Fault → Text
  | noTerminator => "ref key must end with '@', e.g. \"userId@\": \"/Moment/userId\""
  | repeatedWildcard w =>
    "repeated wildcard '" ++ [w.char] ++ "' before '$', each marker may appear once"
  | loneQuestion => "a lone '?' before '$' must be combined with '%' or '_'"
  | logicSign stem => "'" ++ stem ++ "' uses '&' or '|', only the '!' logic prefix is supported"
  | noTable => "join path must start with a table, e.g. \"</User\""
  | valueNotText => "ref value must be a path string like \"/Moment/userId\""
  | valueNotReference => "ref value must end with /Table[:alias]/key"
  | other reason => reason

def SettingsFault.detail : SettingsFault → Text
  | notToml => "not a valid TOML document"
  | formatNotTable => "'format' is not a table"
  | toggleNotBoolean => "a toggle of 'format' is not a boolean"
  | other detail => detail

def FileFault.text : FileFault → Text
  | notFound => "No such file or directory (os error 2)"
  | notDirectory => "Not a directory (os error 20)"
  | isDirectory => "Is a directory (os error 21)"
  | notUtf8 => "stream did not contain valid UTF-8"

def Site.render (s : Site) : Text := s.join ++ "/.../" ++ s.table ++ "/" ++ s.key

namespace KeyError

/-- What an unknown join mark was met at; an unknown table or path is left out. -/
def place (table path : Text) : Text :=
  let ofTable : Text := " for table '" ++ table ++ "'"
  let ofPath : Text := " in '" ++ path ++ "'"
  (if table = [] then [] else ofTable) ++ (if path = [] then [] else ofPath)

def message : KeyError → Text
  | malformed site fault => site.render ++ ": malformed key syntax, " ++ fault.reason
  | badName site name =>
    site.render ++ ": '" ++ name ++ "' is not a valid field name, expected [A-Za-z_][A-Za-z0-9_]*"
  | unknownJoin mark table path =>
    "unsupported join type '" ++ mark ++ "'" ++ place table path ++
      ", expected one of @ < > * & | ! ^ ( ) ~"
  | settings fault => "Configuration error: " ++ fault.detail
  | file fault => "IO error: " ++ fault.text

/-- The table and the path that an unknown join mark was met at. No other error has a place of its
own to give up. -/
def locate (table path : Text) : KeyError → KeyError
  | unknownJoin mark _ _ => unknownJoin mark table path
  | e => e

end KeyError

end KeyNotation
