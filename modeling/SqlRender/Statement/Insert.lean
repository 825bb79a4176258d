import SqlRender.Statement.Record

namespace SqlRender

namespace OnConflict

/-- Overwriting is taken up again after it was given up. -/
def addActions (c : OnConflict) (actions : List ConflictAction) : OnConflict :=
  { c with actions := c.actions ++ actions, ignore := false }

def doNothing (c : OnConflict) : OnConflict := { c with actions := [], ignore := true }

end OnConflict

namespace Insert

/-- One change to a statement that inserts rows. -/
inductive Step where
  | columns (names : List String)
  | values (row : List Value)
  | record (record : Record)
  | query (query : Node)
  | onConflict (target : List String)
  | doUpdate (columns : List String)
  | doUpdateSet (column : String) (value : Value)
  | doNothing
  | returning (columns : List String)

/-- Of a repeated column the last value counts. -/
def lastValue? (column : String) (pairs : List (String × Value)) : Option Value :=
  pairs.reverse.lookup column

/-- One more row. The pairs give the columns unless there are columns already, whose values are
then picked out of the pairs. -/
def addPairs (s : Insert) (pairs : List (String × Value)) : Except Error Insert :=
  if s.columnNames.isEmpty then
    .ok { s with
      columnNames := pairs.map Prod.fst
      rows := s.rows ++ [pairs.map Prod.snd] }
  else
    let missing := s.columnNames.filter fun c ↦ (lastValue? c pairs).isNone
    if missing.isEmpty then
      .ok { s with rows := s.rows ++ [s.columnNames.filterMap (lastValue? · pairs)] }
    else .error (.missingColumns missing)

/-- Pairs add to the rows and may give the columns; all else stays. -/
theorem exists_of_addPairs {s s' : Insert} {pairs : List (String × Value)}
    (h : s.addPairs pairs = .ok s') : ∃ columnNames rows, s' = { s with columnNames, rows } := by
  rw [addPairs] at h
  split at h
  · cases h
    exact ⟨_, _, rfl⟩
  · dsimp only at h
    split at h
    · cases h
      exact ⟨_, _, rfl⟩
    · cases h

/-- Adds a record as the given mapping lays it out. -/
def addRecord (mapping : Record → Except Error (List (String × Value))) (s : Insert)
    (r : Record) : Except Error Insert := do
  let pairs ← mapping r
  s.addPairs pairs

theorem exists_of_addRecord {mapping : Record → Except Error (List (String × Value))}
    {s s' : Insert} {r : Record} (h : s.addRecord mapping r = .ok s') :
    ∃ columnNames rows, s' = { s with columnNames, rows } := by
  rw [addRecord] at h
  cases hpairs : mapping r with
  | error e =>
    rw [hpairs] at h
    cases h
  | ok pairs =>
    rw [hpairs] at h
    exact exists_of_addPairs h

def withConflict (s : Insert) (change : OnConflict → OnConflict) : Insert :=
  { s with conflict := some (change (s.conflict.getD {})) }

def apply (s : Insert) : Step → Except Error Insert
  | .columns names => .ok { s with columnNames := s.columnNames ++ names }
  | .values row => .ok { s with rows := s.rows ++ [row] }
  | .record r => addRecord s.mapper.pairs s r
  | .query query => .ok { s with query := some query }
  | .onConflict target => .ok (s.withConflict fun c ↦ { c with target })
  | .doUpdate columns => .ok (s.withConflict (·.addActions (columns.map .proposed)))
  | .doUpdateSet column value => .ok (s.withConflict (·.addActions [.set column value]))
  | .doNothing => .ok (s.withConflict OnConflict.doNothing)
  | .returning columns => .ok { s with returning := s.returning ++ columns }

def applyAll (s : Insert) (steps : List Step) : Except Error Insert := steps.foldlM apply s

end Insert

end SqlRender
