import TinyPlay.Lib.Options

/-! `TinyFeatureOptions.cmake` and `TinyMsvcParallel.cmake`: what they do to the variables and to
the cache. Descriptions and drop-down lists are not followed. -/

namespace TinyPlay

open CMake

def featureOption (s : State) (name : String) (default : Text) : State := s.option name default

def featureOptionDependent (s : State) (name : String) (default : Text) (depends : Bool)
    (force : Text) : State := s.dependentOption name default depends force

def contains (s : State) (name text : String) : Bool := text.toList <:+: s.operand name

/-- The flags that it appends to are variables of the function. -/
def tinyMsvcParallel (s : State) : State :=
  if contains s "CMAKE_GENERATOR" "Visual Studio" &&
      ((contains s "CMAKE_C_COMPILER_ID" "MSVC" || contains s "CMAKE_C_COMPILER_ID" "Intel") ||
        (contains s "CMAKE_CXX_COMPILER_ID" "MSVC" ||
          contains s "CMAKE_CXX_COMPILER_ID" "Intel")) then
    s.setDefault "MSVC_PARALLEL" "ON".toList
  else s

end TinyPlay
