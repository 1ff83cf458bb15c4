import RowTriples.Datum
/-!
# Rows and the columns derived for them

A row is a source record under the header of its table. What is derived for it, the results of
bindings and the variables of iterations, is stacked on top of the record: the latest column of a
name hides all others. A nested scope remembers the depth of the stack when it is opened and cuts
the stack back to it when it is closed.
-/

namespace RowTriples

structure Header where
  names : List String
  deriving DecidableEq

/-- The last position of a name in a list. -/
def lastIndex? (name : String) : List String → Option Nat
  | [] => none
  | other :: names =>
    match lastIndex? name names with
    | some i => some (i + 1)
    | none => if other = name then some 0 else none

section Positions

variable {name : String} {names : List String} {i : Nat}

theorem lastIndex?_eq_none_iff :
    lastIndex? name names = none ↔ name ∉ names := by
  induction names with
  | nil => simp [lastIndex?]
  | cons other names ih =>
      rw [lastIndex?, List.mem_cons, not_or, ← ih]
      cases later : lastIndex? name names with
      | none => simp [eq_comm]
      | some i => simp

theorem last_of_lastIndex? (found : lastIndex? name names = some i) :
    names[i]? = some name ∧ ∀ j, i < j → names[j]? ≠ some name := by
  induction names generalizing i with
  | nil => cases found
  | cons other names ih =>
      rw [lastIndex?] at found
      cases later : lastIndex? name names with
      | none =>
          -- Only the first name can be it, and it does not come again.
          simp only [later] at found
          split at found <;> cases found
          next same =>
            refine ⟨congrArg some same, ?_⟩
            intro j behind again
            obtain ⟨j, rfl⟩ := Nat.exists_eq_add_one_of_ne_zero (Nat.ne_of_gt behind)
            exact lastIndex?_eq_none_iff.mp later (List.mem_of_getElem? again)
      | some last =>
          simp only [later, Option.some.injEq] at found
          subst found
          obtain ⟨here, beyond⟩ := ih later
          refine ⟨here, ?_⟩
          intro j behind
          obtain ⟨j, rfl⟩ := Nat.exists_eq_add_one_of_ne_zero (Nat.ne_zero_of_lt behind)
          exact beyond j (Nat.lt_of_succ_lt_succ behind)

/-- The position of a column is the last one of its name. -/
theorem lastIndex?_eq_some_iff :
    lastIndex? name names = some i ↔
      names[i]? = some name ∧ ∀ j, i < j → names[j]? ≠ some name := by
  constructor
  · exact last_of_lastIndex?
  · rintro ⟨here, beyond⟩
    cases found : lastIndex? name names with
    | none => exact absurd (List.mem_of_getElem? here) (lastIndex?_eq_none_iff.mp found)
    | some last =>
        -- Of two positions that are both the last one, neither is behind the other.
        obtain ⟨there, after⟩ := last_of_lastIndex? found
        have same : last = i := by
          apply Nat.le_antisymm
          · exact Nat.le_of_not_lt fun behind => beyond last behind there
          · exact Nat.le_of_not_lt fun behind => after i behind here
        rw [same]

end Positions

namespace Header

/-- The position of a column; a repeated name stands for the last one. -/
def position? (header : Header) (name : String) : Option Nat :=
  lastIndex? name header.names

def size (header : Header) : Nat :=
  header.names.length

end Header

inductive Origin where
  | binding
  | iteration
  deriving DecidableEq

structure Column where
  name : String
  value : Datum
  origin : Origin

/-- A source record with the columns derived for it, the latest one first. -/
structure Row where
  header : Header
  cells : List Datum
  derived : List Column := []

namespace Row

variable (row : Row)

/-- The latest derived column of a name. -/
def column? (name : String) : Option Column :=
  row.derived.find? (·.name = name)

/-- The cell of a column. Where the record is too short for its header there is none. -/
def cell? (name : String) : Option Datum :=
  (row.header.position? name).bind (row.cells[·]?)

/-- The value of a column: that of the latest derived column of the name, else the cell. -/
def get? (name : String) : Option Datum :=
  match row.column? name with
  | some column => some column.value
  | none => row.cell? name

/-- The origin of a derived column. Columns of the record have none. -/
def origin? (name : String) : Option Origin :=
  (row.column? name).map (·.origin)

def bind (name : String) (value : Datum) (origin : Origin) : Row :=
  { row with derived := ⟨name, value, origin⟩ :: row.derived }

def depth : Nat :=
  row.derived.length

/-- The row with the derived columns up to the given depth. -/
def truncate (depth : Nat) : Row :=
  { row with derived := row.derived.drop (row.depth - depth) }

@[simp] theorem column?_bind (name other : String) (value : Datum) (origin : Origin) :
    (row.bind name value origin).column? other =
      if name = other then some ⟨name, value, origin⟩ else row.column? other := by
  by_cases h : name = other <;> simp [column?, bind, h]

theorem get?_bind (name other : String) (value : Datum) (origin : Origin) :
    (row.bind name value origin).get? other = if name = other then some value
      else row.get? other := by
  by_cases h : name = other <;> simp [get?, cell?, bind, column?, h]

theorem origin?_bind (name other : String) (value : Datum) (origin : Origin) :
    (row.bind name value origin).origin? other = if name = other then some origin
      else row.origin? other := by
  by_cases h : name = other <;> simp [origin?, bind, column?, h]

end Row

/-! ### Scripts

A script is a sequence of uses of a row. It is run with one stack that is cut back at the end of
every nested scope. -/

inductive Step where
  | bind (name : String) (value : Datum) (origin : Origin)
  | get (name : String)
  | origin (name : String)
  | position (name : String)
  | size
  /-- Steps in a nested scope. -/
  | scope (steps : List Step)

inductive Answer where
  | bound
  | value (found : Option Datum)
  | origin (found : Option Origin)
  | position (found : Option Nat)
  | size (columns : Nat)
  | scope (answers : List Answer)

mutual

def Step.run (row : Row) : Step → Row × Answer
  | .bind name value source => (row.bind name value source, .bound)
  | .get name => (row, .value (row.get? name))
  | .origin name => (row, .origin (row.origin? name))
  | .position name => (row, .position (row.header.position? name))
  | .size => (row, .size row.header.size)
  | .scope steps =>
    let (inner, answers) := Step.runAll row steps
    (inner.truncate row.depth, .scope answers)

def Step.runAll (row : Row) : List Step → Row × List Answer
  | [] => (row, [])
  | step :: steps =>
    let (next, answer) := Step.run row step
    let (last, answers) := Step.runAll next steps
    (last, answer :: answers)

end

/-! ### Procedures

A procedure chooses each step by what it has been answered, and it may give up with an error.
Whoever opened a scope learns how it ended, and passes an error on or goes on behind it. The stack
is cut back either way. -/

/-- A use of a row whose steps depend on the answers, with an error or a result at its end. -/
inductive Procedure (ε α : Type) where
  | done (result : α)
  | fail (error : ε)
  | bind (name : String) (value : Datum) (origin : Origin) (next : Procedure ε α)
  | get (name : String) (next : Option Datum → Procedure ε α)
  | origin (name : String) (next : Option Origin → Procedure ε α)
  /-- A procedure in a nested scope, and what is done after its end. -/
  | scope (inner : Procedure ε α) (next : Except ε α → Procedure ε α)

def Procedure.run {ε α : Type} (row : Row) : Procedure ε α → Except ε α × Row
  | .done result => (.ok result, row)
  | .fail error => (.error error, row)
  | .bind name value source next => run (row.bind name value source) next
  | .get name next => run row (next (row.get? name))
  | .origin name next => run row (next (row.origin? name))
  | .scope inner next =>
    let (result, left) := run row inner
    run (left.truncate row.depth) (next result)

end RowTriples
