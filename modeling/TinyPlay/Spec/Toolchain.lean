import TinyPlay.Lib.CMake

/-! The version requirements of `CMakeLists.txt` and the CMake module that checks them. What
`project()` finds out about the machine is a `Toolchain`; the run of qmake is an argument. -/

namespace TinyPlay

open CMake

def TRUE : Text := "TRUE".toList
def FALSE : Text := "FALSE".toList

/-- The texts of all checks. -/
def notSatisfied (kind name : String) (needed yours : Text) (upgrade : String) : Text :=
  ("Minimum " ++ kind ++ " " ++ name ++ " version was not satisfied, " ++ kind ++
    " version >=").toList ++ needed ++ ", your version is ".toList ++ yours ++
    (", upgrade " ++ upgrade).toList

/-! ### `TinyToolchainRequirement.cmake` -/

/-- As the regular expression engine gets it; the argument is a quoted one. -/
def regexpVersion : Option Text :=
  unquote "^[0-9]+\\.[0-9]+\\.[0-9]+(\\.[0-9]+)?$".toList

def parsingFailed : Text :=
  ("Parsing of the 'qmake -query QT_VERSION' failed " ++
    "in tiny_satisfies_minimum_required_qt_version().").toList

def notDetermined (qmakeExecutable : Text) : Text :=
  "Qt version could not be determined because the '".toList ++ qmakeExecutable ++
    ("' command can't be executed or it returned a non-zero exit code, continuing a normal " ++
    "execution and leaving decision logic up to the find_package() function, " ++
    "in tiny_satisfies_minimum_required_qt_version()").toList

def tinySatisfiesMinimumRequiredQtVersion (s : State) (outVariable : String) (qmake : Process) :
    Except Text Returned :=
  if (s.value? "TINY_QT_VERSION").isSome && !s.strequal "TINY_QT_VERSION" "" then
    if s.versionGreaterEqual "TINY_QT_VERSION" "minReqQtVersion" then
      .ok ⟨[(outVariable, TRUE)], s.cache, []⟩
    else
      .ok ⟨[(outVariable, FALSE)], s.cache, []⟩
  else if qmake.result.strequal "no such file or directory" || !qmake.result.equal 0 then
    .ok ⟨[(outVariable, TRUE)], s.cache,
      [(.verbose, notDetermined (s.reference "QT_QMAKE_EXECUTABLE"))]⟩
  else
    let qtVersion := qmake.stripped
    if !regexpVersion.any fun pattern => isMatch pattern qtVersion then .error parsingFailed
    else
      -- `CMAKE_MATCH_0` is the whole text, because the pattern is anchored at both ends
      let s := s.setCache "TINY_QT_VERSION" qtVersion
      if s.versionGreaterEqual "TINY_QT_VERSION" "minReqQtVersion" then
        .ok ⟨[(outVariable, TRUE)], s.cache, []⟩
      else
        .ok ⟨[(outVariable, FALSE)], s.cache, []⟩

def oneValueArgs : List String := ["MSVC", "CLANG_CL", "GCC", "CLANG", "QT"]

/-- The compilers; the messages for GCC and Clang are recommendations only. -/
def compilerRequirement (s : State) : Except Text (List (Level × Text)) := do
  let yours := s.reference "CMAKE_CXX_COMPILER_VERSION"
  if s.strequal "CMAKE_CXX_COMPILER_ID" "MSVC" then
    if s.versionLess "CMAKE_CXX_COMPILER_VERSION" "TINY_MSVC" then
      throw (notSatisfied "required" "MSVC" (s.reference "TINY_MSVC") yours "Visual Studio.")
  -- Clang-cl
  if s.isTrue "MSVC" && s.strequal "CMAKE_CXX_COMPILER_ID" "Clang" &&
      s.strequal "CMAKE_CXX_SIMULATE_ID" "MSVC" then
    if s.versionLess "CMAKE_CXX_SIMULATE_VERSION" "TINY_MSVC" then
      throw (notSatisfied "required" "MSVC" (s.reference "TINY_MSVC")
        (s.reference "CMAKE_CXX_SIMULATE_VERSION") "Visual Studio.")
    if s.versionLess "CMAKE_CXX_COMPILER_VERSION" "TINY_CLANG_CL" then
      throw (notSatisfied "required" "Clang-cl" (s.reference "TINY_CLANG_CL") yours "LLVM.")
  let gcc := if !s.isTrue "MSVC" && s.strequal "CMAKE_CXX_COMPILER_ID" "GNU" &&
      s.versionLess "CMAKE_CXX_COMPILER_VERSION" "TINY_GCC" then
    [(Level.status, notSatisfied "recommended" "GCC" (s.reference "TINY_GCC") yours
      "the GCC compiler")] else []
  let clang := if !s.isTrue "MSVC" && (s.strequal "CMAKE_CXX_COMPILER_ID" "Clang" ||
      s.strequal "CMAKE_CXX_COMPILER_ID" "AppleClang") &&
      s.versionLess "CMAKE_CXX_COMPILER_VERSION" "TINY_CLANG" then
    [(Level.status, notSatisfied "recommended" "Clang" (s.reference "TINY_CLANG") yours
      "Clang compiler")] else []
  return gcc ++ clang

def tinyToolchainRequirement (s : State) (arguments : List Text) (qmake : Process) :
    Except Text Returned := do
  let s := s.parseArguments "TINY" oneValueArgs arguments
  if (s.value? "TINY_UNPARSED_ARGUMENTS").isSome then
    throw ("The tiny_toolchain_requirement() was passed extra arguments: ".toList ++
      s.reference "TINY_UNPARSED_ARGUMENTS")
  let messages ← compilerRequirement s
  let s := s.unset "satisfiedMinReqQtVersion"
  let returned ← tinySatisfiesMinimumRequiredQtVersion s "satisfiedMinReqQtVersion" qmake
  let s := s.afterCall returned
  if !s.isTrue "satisfiedMinReqQtVersion" then
    throw (notSatisfied "required" "Qt" (s.reference "TINY_QT") (s.reference "TINY_QT_VERSION")
      "Qt Framework.")
  return ⟨[], s.cache, messages ++ returned.messages⟩

/-! ### `CMakeLists.txt` -/

/-- What the project finds in its scope. -/
structure Toolchain where
  msvc : Bool
  compilerId : Text
  compilerVersion : Text
  simulateId : Text
  simulateVersion : Text
  qmakeExecutable : Text

def Toolchain.state (toolchain : Toolchain) (cache : String → Option Text) : State :=
  State.setAll ⟨fun _ => none, cache⟩ [
    ("MSVC", if toolchain.msvc then "1".toList else []),
    ("CMAKE_CXX_COMPILER_ID", toolchain.compilerId),
    ("CMAKE_CXX_COMPILER_VERSION", toolchain.compilerVersion),
    ("CMAKE_CXX_SIMULATE_ID", toolchain.simulateId),
    ("CMAKE_CXX_SIMULATE_VERSION", toolchain.simulateVersion),
    ("QT_QMAKE_EXECUTABLE", toolchain.qmakeExecutable)]

def versionRequirements (s : State) : State := s.setAll [
  ("minReqMsvcVersion", "19.29".toList),
  ("minRecGCCVersion", "10.2".toList),
  ("minRecClangVersion", "12".toList),
  ("minReqClangClVersion", "14.0.3".toList),
  ("minQtVersion", "6.2".toList),
  ("minNlohmannJsonVersion", "3.9.1".toList),
  ("minTinyOrmVersion", "0.37.3".toList)]

def requirementArguments (s : State) : List Text :=
  "MSVC".toList :: s.expand "minReqMsvcVersion" ++
  "CLANG_CL".toList :: s.expand "minReqClangClVersion" ++
  "GCC".toList :: s.expand "minRecGCCVersion" ++
  "CLANG".toList :: s.expand "minRecClangVersion" ++
  "QT".toList :: s.expand "minReqQtVersion"

/-- A configure step, up to the last version check. -/
def configure (toolchain : Toolchain) (cache : String → Option Text) (qmake : Process) :
    Except Text Returned :=
  let s := versionRequirements (toolchain.state cache)
  tinyToolchainRequirement s (requirementArguments s) qmake

end TinyPlay
