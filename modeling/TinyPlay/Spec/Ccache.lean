import TinyPlay.Spec.Toolchain

/-! The ccache fixes of `TinyHelpers.cmake`, and the part of a configure step that runs them. The
run of `ccache --print-version` is an argument, and so is what `cmake_policy` says. -/

namespace TinyPlay.Ccache

open CMake

/-! ### `TinyHelpers.cmake` -/

def tinyIsCcacheCompilerLauncher (s : State) : Bool :=
  if !s.isDefined "CMAKE_CXX_COMPILER_LAUNCHER" then false
  else
    let ccacheStem :=
      stem (s.isTrue "CMAKE_HOST_WIN32") (s.reference "CMAKE_CXX_COMPILER_LAUNCHER")
    if ccacheStem ≠ "ccache".toList ∧ ccacheStem ≠ "sccache".toList then false else true

def tinyShouldFixCcacheMsvc (s : State) : Bool :=
  if !s.isTrue "WIN32" || !s.isTrue "MSVC" || s.isTrue "MINGW" ||
      !s.isDefined "CMAKE_CXX_COMPILER_LAUNCHER" then false
  else tinyIsCcacheCompilerLauncher s

def tinyShouldFixCcacheClang (s : State) : Bool :=
  if !s.strequal "CMAKE_CXX_COMPILER_ID" "Clang" then false else tinyIsCcacheCompilerLauncher s

/-- As the regular expression engine gets them; the arguments are quoted ones. -/
def regexpGitRef : Option Text :=
  unquote ("^.*\\.[0-9a-f][0-9a-f][0-9a-f][0-9a-f][0-9a-f][0-9a-f][0-9a-f][0-9a-f]" ++
    "[0-9a-f]*$").toList

def regexpVersion : Option Text := unquote "^[0-9]+\\.[0-9]+(\\.[0-9]+)?(\\.[0-9]+)?$".toList

def parsingFailed : Text :=
  ("Parsing of the 'ccache --print-version' failed " ++
    "in tiny_should_disable_precompile_headers().").toList

def tinyShouldDisablePrecompileHeaders (s : State) (ccache : Process) : Outcome Bool :=
  if s.isDefined "TINY_CCACHE_VERSION" && !s.strequal "TINY_CCACHE_VERSION" "" then
    if s.versionAtLeast "TINY_CCACHE_VERSION" "4.10" ||
        s.strequal "TINY_CCACHE_VERSION" "git-ref" then ⟨.ok false, s.cache, []⟩
    else ⟨.ok true, s.cache, []⟩
  else if ccache.result.strequal "no such file or directory" then ⟨.ok false, s.cache, []⟩
  else if !ccache.result.equal 0 then
    ⟨.ok true, (s.setCache "TINY_CCACHE_VERSION" "0".toList).cache, []⟩
  else
    let ccacheVersionRaw := ccache.stripped
    if regexpGitRef.any fun pattern => isMatch pattern ccacheVersionRaw then
      ⟨.ok false, (s.setCache "TINY_CCACHE_VERSION" "git-ref".toList).cache, []⟩
    else if !regexpVersion.any fun pattern => isMatch pattern ccacheVersionRaw then
      ⟨.error parsingFailed, s.cache, []⟩
    else
      -- `CMAKE_MATCH_0` is the whole text, because the pattern is anchored at both ends
      let s := s.setCache "TINY_CCACHE_VERSION" ccacheVersionRaw
      if s.versionAtLeast "TINY_CCACHE_VERSION" "4.10" then ⟨.ok false, s.cache, []⟩
      else ⟨.ok true, s.cache, []⟩

def disabledPch : Text :=
  ("Disabled PCH because ccache or sccache is used as compiler " ++ "launcher for MSVC").toList

def tinyDisablePrecompileHeaders (s : State) (ccache : Process) : Outcome Unit :=
  (tinyShouldDisablePrecompileHeaders s ccache).next s fun shouldDisablePch s =>
    if !shouldDisablePch then ⟨.ok (), s.cache, []⟩
    else
      ⟨.ok (), (s.setCache "CMAKE_DISABLE_PRECOMPILE_HEADERS" "ON".toList).cache,
        [(.verbose, disabledPch)]⟩

/-- `policyCmp0141` is what `cmake_policy(GET CMP0141 ..)` gives. -/
def tinyIsNewMsvcDebugInformationFormat325 (s : State) (policyCmp0141 : Text) : Bool :=
  if s.versionAtLeast "CMAKE_VERSION" "3.25" then policyCmp0141 = "NEW".toList else false

def tinyFixCcacheMsvc325 (s : State) : State :=
  s.setCache "CMAKE_MSVC_DEBUG_INFORMATION_FORMAT"
    "$<$<CONFIG:Debug,RelWithDebInfo>:Embedded>".toList

/-- `(/|-)(Zi|ZI)` -/
def isZi (a b c : Char) : Bool := (a == '/' || a == '-') && b == 'Z' && (c == 'i' || c == 'I')

def containsZi : Text → Bool
  | a :: b :: c :: s => isZi a b c || containsZi (b :: c :: s)
  | _ => false

def replaceZi : Text → Text
  | a :: b :: c :: s =>
    if isZi a b c then '/' :: 'Z' :: '7' :: replaceZi s else a :: replaceZi (b :: c :: s)
  | s => s

/-- For flags that are no list. -/
def tinyReplaceZiByZ7For (s : State) (option : String) : State :=
  if s.isDefined option && containsZi (s.reference option) then
    s.setCache option (replaceZi (s.reference option))
  else s

def notSupported : Text :=
  ("The ccache compiler launcher is not supported for multi-configuration " ++
    "generators or with undefined CMAKE_BUILD_TYPE on CMake <3.25").toList

def tinyFixCcacheMsvc324 (s : State) : State × List (Level × Text) :=
  if s.isTrue "TINY_IS_MULTI_CONFIG" || s.strequal "TINY_BUILD_TYPE_LOWER" "" then
    (s, [(.status, notSupported)])
  else if s.strequal "TINY_BUILD_TYPE_LOWER" "debug" then
    (tinyReplaceZiByZ7For (tinyReplaceZiByZ7For s "CMAKE_CXX_FLAGS_DEBUG")
      "CMAKE_C_FLAGS_DEBUG", [])
  else if s.strequal "TINY_BUILD_TYPE_LOWER" "release" then
    (tinyReplaceZiByZ7For (tinyReplaceZiByZ7For s "CMAKE_CXX_FLAGS_RELEASE")
      "CMAKE_C_FLAGS_RELEASE", [])
  else if s.strequal "TINY_BUILD_TYPE_LOWER" "relwithdebinfo" then
    (tinyReplaceZiByZ7For (tinyReplaceZiByZ7For s "CMAKE_CXX_FLAGS_RELWITHDEBINFO")
      "CMAKE_C_FLAGS_RELWITHDEBINFO", [])
  else (s, [])

def tinyFixCcacheMsvc (s : State) (policyCmp0141 : Text) (ccache : Process) : Outcome Unit :=
  let isNewMsvcDebugInformationFormat := tinyIsNewMsvcDebugInformationFormat325 s policyCmp0141
  let (s, messages) :=
    if isNewMsvcDebugInformationFormat then (tinyFixCcacheMsvc325 s, [])
    else tinyFixCcacheMsvc324 s
  let rest :=
    if isNewMsvcDebugInformationFormat || !s.isTrue "TINY_IS_MULTI_CONFIG" then
      tinyDisablePrecompileHeaders s ccache
    else ⟨.ok (), s.cache, []⟩
  { rest with messages := messages ++ rest.messages }

/-- With the variables that it sets for its caller. -/
def tinyFixCcache (s : State) (policyCmp0141 : Text) (ccache : Process) :
    Outcome (List (String × Text)) :=
  let fixed : Outcome Unit :=
    if tinyShouldFixCcacheMsvc s then tinyFixCcacheMsvc s policyCmp0141 ccache
    else ⟨.ok (), s.cache, []⟩
  fixed.next s fun _ s =>
    if tinyShouldFixCcacheClang s then
      ⟨.ok [("CMAKE_CXX_COMPILE_OPTIONS_CREATE_PCH",
        listAppend (s.reference "CMAKE_CXX_COMPILE_OPTIONS_CREATE_PCH")
          ["-Xclang".toList, "-fno-pch-timestamp".toList])], s.cache, []⟩
    else ⟨.ok [], s.cache, []⟩

/-! ### `CMakeLists.txt` -/

/-- The cache entries that only the project itself gives a value: nobody edits them by hand. -/
def kept : List String := ["TINY_CCACHE_VERSION", "TINY_IS_MULTI_CONFIG"]

/-- The ccache fixes of a configure step: the variables at this point, of which none hides a
kept entry, and what the machine says. -/
structure ConfigureStep where
  scope : String → Option Text
  hides : ∀ name ∈ kept, scope name = none
  policyCmp0141 : Text
  ccache : Process
  isMultiConfig : Bool

/-- `tiny_fix_ccache()`, and the mark that `tiny_init_tiny_variables()` leaves: nothing in this part
looks at its other entry. -/
def ConfigureStep.run (c : ConfigureStep) (cache : String → Option Text) : Outcome Unit :=
  let s : State := ⟨c.scope, cache⟩
  (tinyFixCcache s c.policyCmp0141 c.ccache).next s fun options s =>
    let s := s.setAll options
    ⟨.ok (), (s.setCache "TINY_IS_MULTI_CONFIG"
      (if c.isMultiConfig then "1".toList else "0".toList)).cache, []⟩

/-- Between two such parts other entries are set or removed: by hand, or by the rest of the
configure step. -/
inductive Event where
  | edit (name : String) (value : Option Text)
  | configure (c : ConfigureStep)

def step (cache : String → Option Text) : Event → Option (String → Option Text)
  | .edit name value => if name ∈ kept then none else some (Function.update cache name value)
  | .configure c => some (c.run cache).cache

end TinyPlay.Ccache
