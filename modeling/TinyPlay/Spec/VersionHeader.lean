import TinyPlay.Lib.CMake
import TinyPlay.Lib.Pattern

/-! The version header of the project, as `tiny_read_version` of `TinyHelpers.cmake` reads it and
as the preprocessor does. The prefix of the macros is a text of letters, digits and underscores. -/

namespace TinyPlay.VersionHeader

open CMake

/-! ### `TinyHelpers.cmake` -/

def symbols (w : String) : Pattern Char := Pattern.literal (fun b c => b == c) w.toList

/-- `^#define ${TINY_PREFIX}.*_VERSION_[A-Z]+ +[0-9]+`, for a match at the start -/
def defineRegex (versionPrefix : Text) : Pattern Char :=
  symbols "#define " ++ Pattern.literal (fun b c => b == c) versionPrefix ++
    .many (fun _ => true) 0 false :: symbols "_VERSION_" ++
    [.many Char.isUpper 1 false, .many (· == ' ') 1 false, .many Char.isDigit 1 false]

/-- `.+_MAJOR +([0-9]+)` -/
def numberRegex (keyword : String) (captured : Bool) : Pattern Char :=
  .many (fun _ => true) 1 false :: symbols keyword ++
    [.many (· == ' ') 1 false, .many Char.isDigit 1 captured]

/-- With one of the groups as the captured text. -/
def regex (group : ℕ) : Pattern Char :=
  numberRegex "_MAJOR" (group == 1) ++ .one (· == ';') ::
  (numberRegex "_MINOR" (group == 2) ++ .one (· == ';') ::
  (numberRegex "_BUGFIX" (group == 3) ++ .one (· == ';') ::
  numberRegex "_BUILD" (group == 4)))

/-- `CMAKE_MATCH_<group>` after `string(REGEX MATCHALL ..)` -/
def cmakeMatch (group : ℕ) (t : Text) : Option Text := (regex group).lastMatch t.length t

/-- The variable in the message is not the one of the header. -/
def notDetected : Text :=
  "Could not detect project version number from  in tiny_read_version().".toList

structure Read where
  version : Text
  major : Text
  minor : Text
  patch : Text
  tweak : Text
  deriving DecidableEq

def tinyReadVersion (versionPrefix : Text) (versionHeader : List Char) : Except Text Read :=
  let versionFileContent := listOf ((strings [] versionHeader).filter fun line =>
    ((defineRegex versionPrefix).matchHere line).isSome)
  match cmakeMatch 1 versionFileContent, cmakeMatch 2 versionFileContent,
      cmakeMatch 3 versionFileContent, cmakeMatch 4 versionFileContent with
  | some major, some minor, some patch, some tweak =>
    .ok ⟨['.'].intercalate [major, minor, patch, tweak], major, minor, patch, tweak⟩
  | _, _, _, _ => .error notDetected

/-! ### `version.hpp` -/

/-- The macros that a release changes, as they are spelled. -/
structure Macros where
  versionMajor : Text
  versionMinor : Text
  versionBugfix : Text
  versionBuild : Text
  versionStatus : Text

namespace Macros

/-- An integer literal of the preprocessor; a zero in front of it makes it an octal one. -/
def literal (w : Text) : ℕ :=
  if w.head? = some '0' then Nat.ofDigitChars 8 w 0 else Nat.ofDigitChars 10 w 0

/-- `TINYPLAY_PROJECT_VERSION` -/
def projectVersion (m : Macros) : Text :=
  if literal m.versionBuild ≠ 0 then
    ['.'].intercalate [m.versionMajor, m.versionMinor, m.versionBugfix, m.versionBuild] ++
      m.versionStatus
  else ['.'].intercalate [m.versionMajor, m.versionMinor, m.versionBugfix] ++ m.versionStatus

/-- `TINYPLAY_VERSION_STR` -/
def versionStr (m : Macros) : Text := m.projectVersion

/-- `TINYPLAY_VERSION` -/
def version (m : Macros) : ℕ :=
  literal m.versionMajor * 10000 + literal m.versionMinor * 100 + literal m.versionBugfix

end Macros

end TinyPlay.VersionHeader
