import RowTriples.Row
/-!
# Scopes of a row

A row keeps its derived columns on one stack, which is cut back when a nested scope ends. What is
seen of it is an environment with lexical scopes: every scope has a copy of its own in which names
are bound, and the copy is dropped when the scope ends, by a result or by an error. This is why a
row can be handed to a nested scope as a value.

The invariant is that a run only adds columns on top of the stack. So cutting the stack back to its
depth at the beginning of a scope restores it, whatever was run in between.
-/

namespace RowTriples

/-! ### Environments -/

/-- A record with what names are bound to. -/
structure LexicalEnvironment where
  header : Header
  cells : List Datum
  bound : String → Option (Datum × Origin) := fun _ => none

namespace LexicalEnvironment

variable (env : LexicalEnvironment)

/-- The value of a name: the one that it is bound to, else the cell at its position, if the record
is long enough. -/
def get? (name : String) : Option Datum :=
  match env.bound name with
  | some (value, _) => some value
  | none =>
    match env.header.position? name with
    | some i => env.cells[i]?
    | none => none

def origin? (name : String) : Option Origin :=
  (env.bound name).map Prod.snd

def bind (name : String) (value : Datum) (origin : Origin) : LexicalEnvironment :=
  { env with bound := fun other => if other = name then some (value, origin) else env.bound other }

end LexicalEnvironment

mutual

/-- Answers one step. A nested scope works on the environment as a copy, and what becomes of the
copy is not seen behind the scope. -/
def Step.answer (env : LexicalEnvironment) : Step → LexicalEnvironment × Answer
  | .bind name value source => (env.bind name value source, .bound)
  | .get name => (env, .value (env.get? name))
  | .origin name => (env, .origin (env.origin? name))
  | .position name => (env, .position (env.header.position? name))
  | .size => (env, .size env.header.names.length)
  | .scope steps => (env, .scope (Step.answerAll env steps))

def Step.answerAll (env : LexicalEnvironment) : List Step → List Answer
  | [] => []
  | step :: steps =>
    let (next, answer) := Step.answer env step
    answer :: Step.answerAll next steps

end

/-- The end of a procedure in an environment. A nested scope works on the environment as a copy, and
its end is all that is seen of it. -/
def Procedure.eval {ε α : Type} (env : LexicalEnvironment) : Procedure ε α → Except ε α
  | .done result => .ok result
  | .fail error => .error error
  | .bind name value source next => eval (env.bind name value source) next
  | .get name next => eval env (next (env.get? name))
  | .origin name next => eval env (next (env.origin? name))
  | .scope inner next => eval env (next (eval env inner))

/-! ### The stack -/

namespace Row

variable {row : Row}

/-- The row with columns on top of those that it has. -/
def extend (row : Row) (added : List Column) : Row :=
  { row with derived := added ++ row.derived }

theorem extend_extend (added added' : List Column) :
    (row.extend added).extend added' = row.extend (added' ++ added) := by
  rw [extend, extend, extend, List.append_assoc]

theorem bind_eq_extend (name : String) (value : Datum) (origin : Origin) :
    row.bind name value origin = row.extend [⟨name, value, origin⟩] := rfl

/-- Cutting the stack back undoes what was added. -/
@[simp] theorem truncate_extend (added : List Column) :
    (row.extend added).truncate row.depth = row := by
  have excess : (row.extend added).depth - row.depth = added.length := by
    simp [depth, extend]
  rw [truncate, excess]
  simp [extend]

end Row

section Stack

variable {ε α : Type}

mutual

/-- A step adds columns, if it changes the row at all. -/
theorem Step.exists_run_eq_extend : (step : Step) → (row : Row) →
    ∃ added, (Step.run row step).1 = row.extend added
  | .bind name value source, row => ⟨[⟨name, value, source⟩], rfl⟩
  | .get _, _ | .origin _, _ | .position _, _ | .size, _ => ⟨[], rfl⟩
  | .scope steps, row => by
      obtain ⟨added, left⟩ := Step.exists_runAll_eq_extend steps row
      refine ⟨[], ?_⟩
      show (Step.runAll row steps).1.truncate row.depth = row
      rw [left, Row.truncate_extend]

theorem Step.exists_runAll_eq_extend : (steps : List Step) → (row : Row) →
    ∃ added, (Step.runAll row steps).1 = row.extend added
  | [], _ => ⟨[], rfl⟩
  | step :: steps, row => by
      obtain ⟨added, next⟩ := Step.exists_run_eq_extend step row
      obtain ⟨added', last⟩ := Step.exists_runAll_eq_extend steps (Step.run row step).1
      refine ⟨added' ++ added, ?_⟩
      show (Step.runAll (Step.run row step).1 steps).1 = _
      rw [last, next, Row.extend_extend]

end

/-- A scope leaves the row as it found it. -/
theorem Step.run_scope (row : Row) (steps : List Step) :
    Step.run row (.scope steps) = (row, .scope (Step.runAll row steps).2) := by
  obtain ⟨added, left⟩ := Step.exists_runAll_eq_extend steps row
  show ((Step.runAll row steps).1.truncate row.depth, _) = _
  rw [left, Row.truncate_extend]

/-- A procedure adds columns, also where it gives up. -/
theorem Procedure.exists_run_eq_extend (procedure : Procedure ε α) (row : Row) :
    ∃ added, (procedure.run row).2 = row.extend added := by
  induction procedure generalizing row with
  | done result => exact ⟨[], rfl⟩
  | fail error => exact ⟨[], rfl⟩
  | bind name value source next ih =>
      obtain ⟨added, left⟩ := ih (row.bind name value source)
      refine ⟨added ++ [⟨name, value, source⟩], ?_⟩
      rw [run, left, Row.bind_eq_extend, Row.extend_extend]
  | get name next ih => exact ih (row.get? name) row
  | origin name next ih => exact ih (row.origin? name) row
  | scope inner next ihInner ihNext =>
      obtain ⟨added, left⟩ := ihInner row
      show ∃ added, ((next (inner.run row).1).run ((inner.run row).2.truncate row.depth)).2 = _
      rw [left, Row.truncate_extend]
      exact ihNext (inner.run row).1 row

/-- A scope goes on with the row as it was before, and with the end of the inner procedure. -/
theorem Procedure.run_scope (row : Row) (inner : Procedure ε α)
    (next : Except ε α → Procedure ε α) :
    (scope inner next).run row = (next (inner.run row).1).run row := by
  obtain ⟨added, left⟩ := inner.exists_run_eq_extend row
  show (next (inner.run row).1).run ((inner.run row).2.truncate row.depth) = _
  rw [left, Row.truncate_extend]

end Stack

/-! ### Agreement -/

/-- The row shows what the environment holds. -/
structure Row.Shows (row : Row) (env : LexicalEnvironment) : Prop where
  header : row.header = env.header
  cells : row.cells = env.cells
  column : ∀ name, row.column? name =
    (env.bound name).map fun (value, origin) => ⟨name, value, origin⟩

namespace Row.Shows

variable {row : Row} {env : LexicalEnvironment}

theorem get? (shows : row.Shows env) (name : String) : row.get? name = env.get? name := by
  rw [Row.get?, LexicalEnvironment.get?, shows.column, Row.cell?, shows.header, shows.cells]
  cases env.bound name with
  | none => cases env.header.position? name <;> rfl
  | some found => rfl

theorem origin? (shows : row.Shows env) (name : String) : row.origin? name = env.origin? name := by
  rw [Row.origin?, LexicalEnvironment.origin?, shows.column, Option.map_map]
  rfl

theorem bind (shows : row.Shows env) (name : String) (value : Datum) (origin : Origin) :
    (row.bind name value origin).Shows (env.bind name value origin) := by
  refine ⟨shows.header, shows.cells, ?_⟩
  intro other
  rw [Row.column?_bind, LexicalEnvironment.bind, shows.column]
  by_cases same : name = other
  · obtain rfl := same
    simp
  · simp [same, Ne.symm same]

/-- A record has no derived columns, and nothing is bound. -/
theorem start (header : Header) (cells : List Datum) :
    Row.Shows { header, cells } { header, cells } := ⟨rfl, rfl, fun _ => rfl⟩

end Row.Shows

mutual

/-- A step is answered alike, and what it leaves agrees again. -/
theorem Step.run_eq_answer : (step : Step) → {row : Row} → {env : LexicalEnvironment} →
    row.Shows env → (Step.run row step).2 = (Step.answer env step).2 ∧
      (Step.run row step).1.Shows (Step.answer env step).1
  | .bind name value source, _, _, shows => ⟨rfl, shows.bind name value source⟩
  | .get name, _, _, shows => ⟨congrArg Answer.value (shows.get? name), shows⟩
  | .origin name, _, _, shows => ⟨congrArg Answer.origin (shows.origin? name), shows⟩
  | .position name, _, _, shows =>
      ⟨congrArg (fun header : Header => Answer.position (header.position? name)) shows.header,
        shows⟩
  | .size, _, _, shows =>
      ⟨congrArg (fun header : Header => Answer.size header.names.length) shows.header, shows⟩
  | .scope steps, row, _, shows => by
      rw [Step.run_scope]
      exact ⟨congrArg Answer.scope (Step.runAll_eq_answerAll steps shows), shows⟩

theorem Step.runAll_eq_answerAll : (steps : List Step) → {row : Row} → {env : LexicalEnvironment} →
    row.Shows env → (Step.runAll row steps).2 = Step.answerAll env steps
  | [], _, _, _ => rfl
  | step :: steps, row, env, shows => by
      obtain ⟨same, next⟩ := Step.run_eq_answer step shows
      show (Step.run row step).2 :: (Step.runAll (Step.run row step).1 steps).2 =
        (Step.answer env step).2 :: Step.answerAll (Step.answer env step).1 steps
      rw [same, Step.runAll_eq_answerAll steps next]

end

theorem Procedure.run_eq_eval {ε α : Type} (procedure : Procedure ε α) {row : Row}
    {env : LexicalEnvironment} (shows : row.Shows env) :
    (procedure.run row).1 = procedure.eval env := by
  induction procedure generalizing row env with
  | done result => rfl
  | fail error => rfl
  | bind name value source next ih => exact ih (shows.bind name value source)
  | get name next ih =>
      rw [run, eval, shows.get?]
      exact ih (env.get? name) shows
  | origin name next ih =>
      rw [run, eval, shows.origin?]
      exact ih (env.origin? name) shows
  | scope inner next ihInner ihNext =>
      rw [run_scope, eval, ihInner shows]
      exact ihNext (inner.eval env) shows

/-- The scopes of a row are lexical. Every script is answered as by an environment of which each
nested scope has its own copy, and every procedure comes to the same end, whichever scopes it leaves
by an error and wherever it goes on. The position of a column, at which an unbound name is looked
up, is the last one of its name in the header. -/
theorem scopes_are_lexical (header : Header) (cells : List Datum) :
    (∀ steps : List Step, (Step.runAll { header, cells } steps).2 =
      Step.answerAll { header, cells } steps) ∧
    (∀ (ε α : Type) (procedure : Procedure ε α),
      (procedure.run { header, cells }).1 = procedure.eval { header, cells }) ∧
    ∀ name i, header.position? name = some i ↔
      header.names[i]? = some name ∧ ∀ j, i < j → header.names[j]? ≠ some name := by
  refine ⟨?_, ?_, ?_⟩
  · intro steps
    exact Step.runAll_eq_answerAll steps (.start header cells)
  · intro ε α procedure
    exact procedure.run_eq_eval (.start header cells)
  · intro name i
    exact lastIndex?_eq_some_iff

end RowTriples
