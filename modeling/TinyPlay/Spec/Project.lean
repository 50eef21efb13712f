import TinyPlay.Spec.Ccache
import TinyPlay.Spec.FeatureOptions
import TinyPlay.Spec.VersionHeader

/-! A configure step of `CMakeLists.txt`, up to the first target, with the macros of
`TinyInitDefaultVariables.cmake`. What CMake and the machine contribute is an argument; the fatal
errors of `cmake_minimum_required` and `project()` itself are left out, and so is `find_package`. -/

namespace TinyPlay.Project

open CMake

/-! ### `TinyInitDefaultVariables.cmake` -/

/-- An entry whose default is in the environment. -/
def environmentDefault (environment : String → Option Text) (key name : String)
    (suffix : Text) (s : State) : State :=
  match environment key with
  | some value => if s.isDefined name then s else s.setDefault name (value ++ suffix)
  | none => s

def tinyInitTinyVariablesPre (environment : String → Option Text) (s : State) : State :=
  let s := s.setAll [("TinyOrmPlayground_ns", "TinyOrmPlayground".toList),
    ("TinyOrmPlayground_target", "TinyOrmPlayground".toList)]
  let s := environmentDefault environment "VCPKG_ROOT" "CMAKE_TOOLCHAIN_FILE"
    "/scripts/buildsystems/vcpkg.cmake".toList s
  let s := environmentDefault environment "VCPKG_INSTALLATION_ROOT" "CMAKE_TOOLCHAIN_FILE"
    "/scripts/buildsystems/vcpkg.cmake".toList s
  environmentDefault environment "VCPKG_DEFAULT_TRIPLET" "VCPKG_TARGET_TRIPLET" [] s

def initDefaults : List (String × Text) := [
  ("CMAKE_DEBUG_POSTFIX", "d".toList),
  ("CMAKE_FIND_PACKAGE_SORT_ORDER", "NATURAL".toList),
  ("CMAKE_FIND_PACKAGE_SORT_DIRECTION", "DEC".toList),
  ("CMAKE_WARN_ON_ABSOLUTE_INSTALL_DESTINATION", "ON".toList)]

/-- Dynamic or static MSVC runtime -/
def initMsvcRuntime (s : State) : State :=
  if s.isTrue "MSVC" && !s.strequal "MSVC_RUNTIME_DYNAMIC" "MSVC_RUNTIME_DYNAMIC-NOTFOUND" then
    if s.isTrue "MSVC_RUNTIME_DYNAMIC" then
      s.set "CMAKE_MSVC_RUNTIME_LIBRARY" "MultiThreaded$<$<CONFIG:Debug>:Debug>DLL".toList
    else s.set "CMAKE_MSVC_RUNTIME_LIBRARY" "MultiThreaded$<$<CONFIG:Debug>:Debug>".toList
  else s

/-- `if(name EQUAL n)`, for a value without a sign -/
def equal (s : State) (name : String) (n : ℕ) : Bool :=
  let value := s.operand name
  value ≠ [] && value.all Char.isDigit && Nat.ofDigitChars 10 value 0 = n

/-- Install prefix for the MinGW and x64 toolchain -/
def initInstallPrefix (s : State) : State :=
  if s.strequal "CMAKE_SYSTEM_NAME" "Windows" &&
      s.isTrue "CMAKE_INSTALL_PREFIX_INITIALIZED_TO_DEFAULT" then
    if s.isTrue "MINGW" then s.setCache "CMAKE_INSTALL_PREFIX" "/usr/local".toList
    else if equal s "CMAKE_SIZEOF_VOID_P" 8 then
      s.setCache "CMAKE_INSTALL_PREFIX" ("C:/Program Files/".toList ++ s.reference "PROJECT_NAME")
    else s
  else s

def importedConfigs (msvc : Bool) : List (String × Text) := [
  ("CMAKE_MAP_IMPORTED_CONFIG_RELEASE", "Release;RelWithDebInfo;MinSizeRel;".toList),
  ("CMAKE_MAP_IMPORTED_CONFIG_RELWITHDEBINFO", "RelWithDebInfo;Release;MinSizeRel;".toList),
  ("CMAKE_MAP_IMPORTED_CONFIG_MINSIZEREL", "MinSizeRel;RelWithDebInfo;Release;".toList),
  -- a debug build against a release build crashes
  ("CMAKE_MAP_IMPORTED_CONFIG_DEBUG", if msvc then "Debug;".toList
    else "Debug;RelWithDebInfo;Release;MinSizeRel;".toList)]

def defaultsSetUp (s : State) : Text :=
  s.reference "TinyOrmPlayground_ns" ++ (": Set up defaults for " ++
    "CMAKE_MAP_IMPORTED_CONFIG_<CONFIG> to avoid link a release type builds against a debug " ++
    "build\n\n * CMAKE_MAP_IMPORTED_CONFIG_RELEASE        = ").toList ++
  s.reference "CMAKE_MAP_IMPORTED_CONFIG_RELEASE" ++
  "\n * CMAKE_MAP_IMPORTED_CONFIG_RELWITHDEBINFO = ".toList ++
  s.reference "CMAKE_MAP_IMPORTED_CONFIG_RELWITHDEBINFO" ++
  "\n * CMAKE_MAP_IMPORTED_CONFIG_MINSIZEREL     = ".toList ++
  s.reference "CMAKE_MAP_IMPORTED_CONFIG_MINSIZEREL" ++
  "\n * CMAKE_MAP_IMPORTED_CONFIG_DEBUG          = ".toList ++
  s.reference "CMAKE_MAP_IMPORTED_CONFIG_DEBUG" ++ "\n".toList

/-- Whether the flags match the pattern of the option, anywhere. -/
def hasNologo (flags : Text) : Bool :=
  "-nologo".toList <:+: flags || "/nologo".toList <:+: flags

def addNologo (s : State) : State :=
  if s.isTrue "MSVC" && !hasNologo (s.operand "CMAKE_RC_FLAGS") then
    s.setCache "CMAKE_RC_FLAGS" (s.reference "CMAKE_RC_FLAGS" ++ " -nologo".toList)
  else s

/-- `tiny_init_cmake_variables` in front of `tiny_fix_ccache` -/
def initCmakeVariables (s : State) : State :=
  let s := s.setDefaults initDefaults
  let s := initInstallPrefix (initMsvcRuntime s)
  let s := s.setDefaults (importedConfigs (s.isTrue "MSVC"))
  addNologo (s.set "TINY_RC_FLAGS_BACKUP" [])

/-- With the scope that the macro leaves. -/
def tinyInitCmakeVariables (s : State) (policyCmp0141 : Text) (ccache : Process) :
    Outcome (String → Option Text) :=
  let s := initCmakeVariables s
  let messages :=
    if s.isTrue "VERBOSE_CONFIGURE" then [(Level.status, defaultsSetUp s)] else []
  let fixed := (Ccache.tinyFixCcache s policyCmp0141 ccache).next s fun options s =>
    ⟨.ok (s.setAll options).scope, s.cache, []⟩
  { fixed with messages := messages ++ fixed.messages }

def tinyInitTinyVariables (isMultiConfig : Bool) (s : State) : State :=
  let s := s.setCache "TINY_BUILD_GENDIR"
    (s.reference "TinyOrmPlayground_target" ++ "_generated".toList)
  s.setCache "TINY_IS_MULTI_CONFIG" (if isMultiConfig then "1".toList else "0".toList)

/-! ### `TinyToolchainRequirement.cmake` -/

/-- Throw a fatal error for unsupported environments. -/
def tinyCheckUnsupportedBuild (s : State) : Except Text Unit := do
  if s.isTrue "MINGW" && !s.isTrue "BUILD_SHARED_LIBS" &&
      s.strequal "CMAKE_CXX_COMPILER_ID" "Clang" &&
      !s.versionAtLeast "CMAKE_CXX_COMPILER_VERSION" "18" then
    throw ("MinGW Clang <18 static build is not supported, it has " ++
      "problems with inline constants :/.").toList
  if s.isTrue "MINGW" && s.isTrue "BUILD_SHARED_LIBS" &&
      s.strequal "CMAKE_CXX_COMPILER_ID" "Clang" && s.isTrue "INLINE_CONSTANTS" &&
      !s.versionAtLeast "CMAKE_CXX_COMPILER_VERSION" "18" then
    throw ("MinGW Clang <18 shared build crashes with inline constants, " ++
      "don't enable the INLINE_CONSTANTS cmake option :/.").toList
  if s.isTrue "TINY_VCPKG" && s.isTrue "TINY_IS_MULTI_CONFIG" then
    throw "Multi-configuration generators are not supported in vcpkg ports.".toList
  if s.isTrue "TINY_VCPKG" && s.isTrue "TINY_BUILD_LOADABLE_DRIVERS" then
    throw "Loadable SQL drivers are not supported in vcpkg ports.".toList
  if s.isTrue "BUILD_DRIVERS" && !s.isTrue "BUILD_MYSQL_DRIVER" then
    throw ("If the BUILD_DRIVERS option is enabled, at least one " ++
      "driver implementation must be enabled, please enable BUILD_MYSQL_DRIVER.").toList

/-! ### `CMakeLists.txt` -/

/-- Names that only the project itself gives a value, or none: nobody edits them by hand. -/
def kept : List String := ["TINY_QT_VERSION", "minReqQtVersion", "TINY_UNPARSED_ARGUMENTS",
  "TINY_CCACHE_VERSION", "TINY_IS_MULTI_CONFIG"]

/-- Names that `project()` gives no value. -/
def own : List String := "MSVC_RUNTIME_DYNAMIC" :: kept

/-- What a configure step meets: the environment, the version header, and what `project()` finds:
its variables, the entries that it gives a value where they have none, and the ones that it
overwrites, such as the name of the project and the compiler, which gets its full path. -/
structure Machine where
  environment : String → Option Text
  versionHeader : List Char
  toolchain : Toolchain
  found : List (String × Text)
  entries : List (String × Text)
  forced : List (String × Text)
  found_other : ∀ v ∈ found, v.1 ∉ "CMAKE_RC_FLAGS" :: own
  entries_other : ∀ e ∈ entries, e.1 ∉ own
  forced_other : ∀ e ∈ forced, e.1 ∉ "CMAKE_RC_FLAGS" :: own
  qmake : Process
  policyCmp0141 : Text
  ccache : Process
  isMultiConfig : Bool

/-- `project()`, where it ends without an error. -/
def Machine.project (m : Machine) (s : State) : State :=
  let others := (s.setAll m.found).scope
  let s : State :=
    ⟨fun name => ((m.toolchain.state s.cache).scope name).or (others name), s.cache⟩
  (s.setDefaults m.entries).forceAll m.forced

/-- `tiny_toolchain_requirement()`, with the scope that it looks into. -/
def Machine.checkToolchain (m : Machine) (s : State) : Outcome Unit :=
  match configure m.toolchain s.cache m.qmake with
  | .ok r => ⟨.ok (), r.cache, r.messages⟩
  | .error e => ⟨.error e, s.cache, []⟩

def initOptions (s : State) : State :=
  let s := featureOption s "BUILD_SHARED_LIBS" "ON".toList
  let s := featureOptionDependent s "MSVC_RUNTIME_DYNAMIC" "ON".toList
    (s.isTrue "MSVC" && !s.isDefined "CMAKE_MSVC_RUNTIME_LIBRARY")
    "MSVC_RUNTIME_DYNAMIC-NOTFOUND".toList
  let s := featureOption s "VERBOSE_CONFIGURE" "OFF".toList
  tinyMsvcParallel s

/-- What the header says, for `project(VERSION ..)`. -/
def versionVariables (read : VersionHeader.Read) : List (String × Text) := [
  ("TINY_VERSION", read.version), ("TINY_VERSION_MAJOR", read.major),
  ("TINY_VERSION_MINOR", read.minor), ("TINY_VERSION_PATCH", read.patch),
  ("TINY_VERSION_TWEAK", read.tweak)]

def Machine.readVersion (m : Machine) (s : State) : Outcome VersionHeader.Read :=
  ⟨VersionHeader.tinyReadVersion "TINYPLAY".toList m.versionHeader, s.cache, []⟩

/-- The step, with the variables that the rest of the project sees. -/
def Machine.run (m : Machine) (cache : Cache) : Outcome (String → Option Text) :=
  let s := tinyInitTinyVariablesPre m.environment ⟨fun _ => none, cache⟩
  (m.readVersion s).next s fun read s =>
    let s := versionRequirements (m.project (s.setAll (versionVariables read)))
    (m.checkToolchain s).next s fun _ s =>
      let s := initOptions s
      (tinyInitCmakeVariables s m.policyCmp0141 m.ccache).next s fun scope s =>
        let s := tinyInitTinyVariables m.isMultiConfig { s with scope := scope }
        ⟨(tinyCheckUnsupportedBuild s).map fun _ => s.scope, s.cache, []⟩

/-- Between two configure steps entries are set or removed by hand, apart from the kept ones. -/
inductive Event where
  | edit (name : String) (value : Option Text)
  | configure (m : Machine)

/-- A fatal error does not undo what the step has written before. -/
def step (cache : Cache) : Event → Option Cache
  | .edit name value => if name ∈ kept then none else some (Function.update cache name value)
  | .configure m => some (m.run cache).cache

end TinyPlay.Project
