import SqlRender.Node.Basic

namespace SqlRender

def Scalar.isLongNumber : Scalar → Bool
  | int n => Digits.isTooLong n.natAbs
  | _ => false

mutual

/-- A whole number in the value is too long to be written. -/
def Value.hasLongNumber : Value → Bool
  | .scalar s => s.isLongNumber
  | .collection _ members => Value.haveLongNumber members
  | .mapping entries => Value.entriesHaveLongNumber entries
  | .foreign _ => false
  | .node n => n.hasLongNumber

def Value.haveLongNumber : List Value → Bool
  | [] => false
  | v :: rest => v.hasLongNumber || Value.haveLongNumber rest

def Value.entriesHaveLongNumber : List (Value × Value) → Bool
  | [] => false
  | (k, v) :: rest => k.hasLongNumber || v.hasLongNumber || Value.entriesHaveLongNumber rest

def Value.rowsHaveLongNumber : List (List Value) → Bool
  | [] => false
  | row :: rest => Value.haveLongNumber row || Value.rowsHaveLongNumber rest

/-- A count in the node, or a whole number among its values, is too long to be written. -/
def Node.hasLongNumber : Node → Bool
  | .verbatim _ => false
  | .template _ args => Value.haveLongNumber args
  | .ident _ => false
  | .compare _ _ value => value.hasLongNumber
  | .combine _ items => Node.haveLongNumber items
  | .aliased source _ => source.hasLongNumber
  | .select body => body.hasLongNumber
  | .union _ members => Node.haveLongNumber members
  | .insert body => body.hasLongNumber
  | .update body => body.hasLongNumber
  | .delete body => body.hasLongNumber

def Node.haveLongNumber : List Node → Bool
  | [] => false
  | n :: rest => n.hasLongNumber || Node.haveLongNumber rest

def Node.optionHasLongNumber : Option Node → Bool
  | none => false
  | some n => n.hasLongNumber

def Select.hasLongNumber : Select → Bool
  | ⟨columns, _, source, _, joins, conditions, groups, having, orders, limit, offset⟩ =>
    Node.haveLongNumber columns || Node.optionHasLongNumber source || Join.haveLongNumber joins
      || Node.haveLongNumber conditions || Node.haveLongNumber groups
      || Node.haveLongNumber having || OrderItem.haveLongNumber orders
      || limit.any Digits.isTooLong || offset.any Digits.isTooLong

def Join.hasLongNumber : Join → Bool
  | ⟨_, source, _, on⟩ => source.hasLongNumber || on.hasLongNumber

def Join.haveLongNumber : List Join → Bool
  | [] => false
  | j :: rest => j.hasLongNumber || Join.haveLongNumber rest

def OrderItem.hasLongNumber : OrderItem → Bool
  | ⟨item, _⟩ => item.hasLongNumber

def OrderItem.haveLongNumber : List OrderItem → Bool
  | [] => false
  | o :: rest => o.hasLongNumber || OrderItem.haveLongNumber rest

def Insert.hasLongNumber : Insert → Bool
  | ⟨_, _, rows, query, conflict, _, _⟩ =>
    Value.rowsHaveLongNumber rows || Node.optionHasLongNumber query
      || Insert.conflictHasLongNumber conflict

def Insert.conflictHasLongNumber : Option OnConflict → Bool
  | none => false
  | some conflict => conflict.hasLongNumber

def OnConflict.hasLongNumber : OnConflict → Bool
  | ⟨_, actions, _⟩ => ConflictAction.haveLongNumber actions

def ConflictAction.hasLongNumber : ConflictAction → Bool
  | .proposed _ => false
  | .set _ value => value.hasLongNumber

def ConflictAction.haveLongNumber : List ConflictAction → Bool
  | [] => false
  | a :: rest => a.hasLongNumber || ConflictAction.haveLongNumber rest

def Assignment.hasLongNumber : Assignment → Bool
  | ⟨_, value⟩ => value.hasLongNumber

def Assignment.haveLongNumber : List Assignment → Bool
  | [] => false
  | a :: rest => a.hasLongNumber || Assignment.haveLongNumber rest

def Update.hasLongNumber : Update → Bool
  | ⟨_, assignments, conditions, _, _⟩ =>
    Assignment.haveLongNumber assignments || Node.haveLongNumber conditions

def Delete.hasLongNumber : Delete → Bool
  | ⟨_, conditions, _⟩ => Node.haveLongNumber conditions

end

end SqlRender
