import Mathlib.Data.List.DropRight
import TinyPlay.Lib.Regex
import TinyPlay.Lib.Version

/-! The part of the CMake language that a version check is written in: scopes and the cache, how
arguments are evaluated, the conditions of `if` and what `execute_process` stores. One character
stands for one byte. -/

namespace CMake

abbrev Text := List Char

abbrev Cache := String → Option Text

/-- The variables of the current scope, and the cache. -/
structure State where
  scope : String → Option Text
  cache : String → Option Text

namespace State

/-- A variable of the scope hides a cache entry. -/
def value? (s : State) (name : String) : Option Text := (s.scope name).or (s.cache name)

/-- `${name}` in a quoted argument. -/
def reference (s : State) (name : String) : Text := (s.value? name).getD []

/-- `${name}` as an unquoted argument, for a value that is no list: an empty one is no argument. -/
def expand (s : State) (name : String) : List Text :=
  if s.reference name = [] then [] else [s.reference name]

/-- An unquoted operand of a comparison: the value of this name, else the name itself. -/
def operand (s : State) (argument : String) : Text := (s.value? argument).getD argument.toList

/-- `set(name value)` -/
def set (s : State) (name : String) (value : Text) : State :=
  { s with scope := Function.update s.scope name (some value) }

/-- `set(name)` -/
def unset (s : State) (name : String) : State :=
  { s with scope := Function.update s.scope name none }

/-- `set(name value CACHE INTERNAL ..)` -/
def setCache (s : State) (name : String) (value : Text) : State :=
  { s with cache := Function.update s.cache name (some value) }

end State

/-! ### Arguments -/

/-- The escape sequences of a quoted argument. -/
def unquote : List Char → Option Text
  | [] => some []
  | ['\\'] => none
  | '\\' :: c :: s =>
    if c = '\n' then unquote s
    else if c = ';' then (unquote s).map fun t => '\\' :: ';' :: t
    else if c = 't' then (unquote s).map ('\t' :: ·)
    else if c = 'r' then (unquote s).map ('\r' :: ·)
    else if c = 'n' then (unquote s).map ('\n' :: ·)
    else if c.isAlphanum then none
    else (unquote s).map (c :: ·)
  | c :: s => (unquote s).map (c :: ·)

/-- What `cmake_parse_arguments` finds. -/
structure Parsed where
  values : List (String × Text)
  unparsed : List Text

/-- Keywords with one value each; `pending` is the keyword whose value is expected. -/
def parseOneValue (keywords : List String) : Option String → List Text → Parsed
  | _, [] => ⟨[], []⟩
  | pending, a :: arguments =>
    match keywords.find? (·.toList = a), pending with
    | some keyword, _ => parseOneValue keywords (some keyword) arguments
    | none, some keyword =>
      let parsed := parseOneValue keywords none arguments
      { parsed with values := (keyword, a) :: parsed.values }
    | none, none =>
      let parsed := parseOneValue keywords none arguments
      { parsed with unparsed := a :: parsed.unparsed }

def State.setAll (s : State) (values : List (String × Text)) : State :=
  values.foldl (fun s v => s.set v.1 v.2) s

/-- `cmake_parse_arguments(PARSE_ARGV 0 start "" "${keywords}" "")`: a keyword without a value
leaves its variable unset. -/
def State.parseArguments (s : State) (start : String) (keywords : List String)
    (arguments : List Text) : State :=
  let parsed := parseOneValue keywords none arguments
  let s := (keywords.map fun keyword => start ++ "_" ++ keyword).foldl State.unset s
  let s := s.setAll (parsed.values.map fun v => (start ++ "_" ++ v.1, v.2))
  if parsed.unparsed = [] then s.unset (start ++ "_UNPARSED_ARGUMENTS")
  else s.set (start ++ "_UNPARSED_ARGUMENTS") ([';'].intercalate parsed.unparsed)

section Scopes

variable {s : State} {name : String}

theorem setCache_value_of_ne {key : String} (h : name ≠ key) (value : Text) :
    (s.setCache key value).value? name = s.value? name :=
  congrArg _ (Function.update_of_ne h _ _)

theorem setAll_cache (values : List (String × Text)) : (s.setAll values).cache = s.cache := by
  induction values generalizing s with
  | nil => rfl
  | cons v values ih => exact ih

theorem setAll_scope {values : List (String × Text)} (h : name ∉ values.map Prod.fst) :
    (s.setAll values).scope name = s.scope name := by
  induction values generalizing s with
  | nil => rfl
  | cons v values ih =>
    rw [List.map_cons, List.mem_cons, not_or] at h
    exact (ih h.2).trans (Function.update_of_ne h.1 _ _)

theorem unsetAll_cache (names : List String) : (names.foldl State.unset s).cache = s.cache := by
  induction names generalizing s with
  | nil => rfl
  | cons n names ih => exact ih

theorem unsetAll_scope {names : List String} (h : name ∉ names) :
    (names.foldl State.unset s).scope name = s.scope name := by
  induction names generalizing s with
  | nil => rfl
  | cons n names ih =>
    rw [List.mem_cons, not_or] at h
    exact (ih h.2).trans (Function.update_of_ne h.1 _ _)

theorem parseOneValue_keywords {keywords : List String} {pending : Option String}
    (hpending : ∀ k ∈ pending, k ∈ keywords) (arguments : List Text) :
    ∀ v ∈ (parseOneValue keywords pending arguments).values, v.1 ∈ keywords := by
  induction arguments generalizing pending with
  | nil => simp [parseOneValue]
  | cons a arguments ih =>
    cases hfound : keywords.find? (·.toList = a) with
    | some keyword =>
      have hkeyword : keyword ∈ keywords := List.mem_of_find?_eq_some hfound
      simp only [parseOneValue, hfound]
      exact ih (by simpa using hkeyword)
    | none =>
      cases pending with
      | none =>
        simp only [parseOneValue, hfound]
        exact ih (by simp)
      | some keyword =>
        simp only [parseOneValue, hfound]
        exact List.forall_mem_cons.mpr ⟨hpending keyword rfl, ih (by simp)⟩

variable {start : String} {keywords : List String}

theorem parseArguments_cache (arguments : List Text) :
    (s.parseArguments start keywords arguments).cache = s.cache := by
  simp only [State.parseArguments]
  split_ifs
  · exact (setAll_cache _).trans (unsetAll_cache _)
  · exact (setAll_cache _).trans (unsetAll_cache _)

/-- Other variables keep their values. -/
theorem parseArguments_scope (arguments : List Text)
    (h : name ∉ keywords.map fun keyword => start ++ "_" ++ keyword)
    (hunparsed : name ≠ start ++ "_UNPARSED_ARGUMENTS") :
    (s.parseArguments start keywords arguments).scope name = s.scope name := by
  have hvalues : name ∉ ((parseOneValue keywords none arguments).values.map fun v =>
      (start ++ "_" ++ v.1, v.2)).map Prod.fst := by
    simp only [List.map_map, List.mem_map, Function.comp_apply, not_exists, not_and]
    rintro v hv rfl
    exact h (List.mem_map_of_mem (parseOneValue_keywords (by simp) arguments v hv))
  simp only [State.parseArguments]
  split_ifs
  · exact (Function.update_of_ne hunparsed _ _).trans
      ((setAll_scope hvalues).trans (unsetAll_scope h))
  · exact (Function.update_of_ne hunparsed _ _).trans
      ((setAll_scope hvalues).trans (unsetAll_scope h))

end Scopes

/-! ### Conditions -/

def falseConstants : List String := ["", "0", "OFF", "NO", "FALSE", "N", "IGNORE", "NOTFOUND"]

def isFalseConstant (t : Text) : Bool :=
  t.map Char.toUpper ∈ falseConstants.map String.toList || "-NOTFOUND".toList.isSuffixOf t

/-- `if(name)` -/
def State.isTrue (s : State) (name : String) : Bool :=
  (s.value? name).any fun t => !isFalseConstant t

/-- `if(name STREQUAL "text")` -/
def State.strequal (s : State) (name : String) (text : String) : Bool :=
  s.operand name = text.toList

/-- `if(a VERSION_LESS b)` -/
def State.versionLess (s : State) (a b : String) : Bool :=
  Version.less (Version.components (s.operand a)) (Version.components (s.operand b))

/-- `if(a VERSION_GREATER_EQUAL b)` -/
def State.versionGreaterEqual (s : State) (a b : String) : Bool := !s.versionLess a b

/-- `if(DEFINED name)` -/
def State.isDefined (s : State) (name : String) : Bool := (s.value? name).isSome

/-- `if(a VERSION_GREATER_EQUAL "text")` -/
def State.versionAtLeast (s : State) (a text : String) : Bool :=
  !Version.less (Version.components (s.operand a)) (Version.components text.toList)

/-- `MATCHES`, for a pattern that is anchored at both ends -/
def isMatch (pattern t : Text) : Bool := (Regex.compile pattern).any fun r => r.accepts t

theorem State.versionGreaterEqual_iff (s : State) (a b : String) :
    s.versionGreaterEqual a b = true ↔
      Version.padded (Version.components (s.operand b)) ≤
        Version.padded (Version.components (s.operand a)) := by
  rw [State.versionGreaterEqual, Bool.not_eq_true', ← Bool.not_eq_true, State.versionLess,
    Version.less_iff]
  exact not_lt

/-! ### Processes -/

/-- `RESULT_VARIABLE`: an exit code or a description of what failed. -/
inductive ProcessResult where
  | exited (code : ℤ)
  | failed (description : String)
  deriving DecidableEq

structure Process where
  result : ProcessResult
  output : List Char

def ProcessResult.strequal (text : String) : ProcessResult → Bool
  | exited code => toString code = text
  | failed description => description = text

/-- A description is no number. -/
def ProcessResult.equal (n : ℤ) : ProcessResult → Bool
  | exited code => code = n
  | failed _ => false

def isSpace (c : Char) : Bool := c ∈ [' ', '\t', '\n', '\x0b', '\x0c', '\r']

/-- Without null characters and without the carriage return of a line end. -/
def fixText : List Char → Text
  | [] => []
  | c :: s =>
    if c = '\x00' ∨ c = '\r' ∧ s.head? = some '\n' then fixText s else c :: fixText s

/-- `OUTPUT_VARIABLE` with `OUTPUT_STRIP_TRAILING_WHITESPACE` -/
def Process.stripped (p : Process) : Text := (fixText p.output).rdropWhile isSpace

/-! ### Lists and paths -/

/-- `list(APPEND ..)` -/
def listAppend (list : Text) (elements : List Text) : Text :=
  [';'].intercalate (if list = [] then elements else list :: elements)

/-- `cmake_path(GET .. STEM ..)`, for a file name behind a separator or alone: up to the first dot
that is not its first symbol. -/
def stem (hostWindows : Bool) (path : Text) : Text :=
  match path.rtakeWhile fun c => !(c == '/' || hostWindows && c == '\\') with
  | [] => []
  | c :: name => c :: name.takeWhile (· ≠ '.')

/-- `file(STRINGS ..)`: the lines of printable symbols; `rev` has been read of the line so far. -/
def strings (rev : Text) : List Char → List Text
  | [] => if rev = [] then [] else [rev.reverse]
  | c :: s =>
    if c = '\r' then strings rev s
    else if ' ' ≤ c ∧ c ≤ '~' ∨ c = '\t' then strings (c :: rev) s
    else if c = '\n' ∨ rev ≠ [] then rev.reverse :: strings [] s
    else strings [] s

/-- The value of a variable for a list of lines. -/
def listOf (lines : List Text) : Text :=
  [';'].intercalate (lines.map fun line => line.flatMap fun c => if c = ';' then ['\\', ';'] else [c])

/-! ### Functions -/

inductive Level where
  | status
  | verbose
  deriving DecidableEq

/-- What a function leaves behind: the variables it sets in the scope of its caller, the cache and
its messages. A fatal error ends the whole configure step and is an `Except.error` instead. -/
structure Returned where
  parentScope : List (String × Text)
  cache : String → Option Text
  messages : List (Level × Text)

/-- The caller goes on. -/
def State.afterCall (s : State) (r : Returned) : State :=
  { s with cache := r.cache }.setAll r.parentScope

/-- What a call leaves behind where a fatal error counts as a result: it ends the configure step,
but what has been written to the cache stays. -/
structure Outcome (α : Type) where
  result : Except Text α
  cache : String → Option Text
  messages : List (Level × Text)

/-- The caller goes on unless the call was fatal. -/
def Outcome.next {α β : Type} (o : Outcome α) (s : State) (f : α → State → Outcome β) : Outcome β :=
  match o.result with
  | .error e => ⟨.error e, o.cache, o.messages⟩
  | .ok a =>
    let rest := f a { s with cache := o.cache }
    { rest with messages := o.messages ++ rest.messages }

section Outcome

variable {α β : Type} {o : Outcome α} {s : State} {f : α → State → Outcome β}

theorem Outcome.next_of_ok {a : α} (h : o.result = .ok a) :
    (o.next s f).result = (f a { s with cache := o.cache }).result ∧
      (o.next s f).cache = (f a { s with cache := o.cache }).cache := by
  rw [Outcome.next, h]
  exact ⟨rfl, rfl⟩

theorem Outcome.next_of_error {e : Text} (h : o.result = .error e) :
    (o.next s f).result = .error e ∧ (o.next s f).cache = o.cache := by
  rw [Outcome.next, h]
  exact ⟨rfl, rfl⟩

end Outcome

theorem afterCall_cache (s : State) (r : Returned) : (s.afterCall r).cache = r.cache :=
  setAll_cache _

end CMake
