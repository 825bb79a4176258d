namespace SqlRender.Template

/-- Where a scan of SQL text stands: outside quotes, or inside a region that began with `quote`,
where `escaped` says that the next character cannot close it. -/
inductive ScanState where
  | normal
  | quoted (quote : Char) (escaped : Bool)
  deriving DecidableEq

def isQuote (c : Char) : Bool := c = '\'' || c = '"' || c = '\x60'

/-- A doubled quote closes a region and opens it again. A backslash escapes inside single and
double quotes, if it escapes at all. -/
def ScanState.next (backslashEscapes : Bool) : ScanState → Char → ScanState
  | normal, c => if isQuote c then quoted c false else normal
  | quoted quote true, _ => quoted quote false
  | quoted quote false, c =>
    if backslashEscapes && c = '\\' && quote ≠ '\x60' then quoted quote true
    else if c = quote then normal
    else quoted quote false

def consHead (c : Char) : List (List Char) → List (List Char)
  | [] => [[c]]
  | segment :: rest => (c :: segment) :: rest

/-- The pieces between the markers that stand outside quotes. -/
def segmentsFrom (backslashEscapes : Bool) (state : ScanState) : List Char → List (List Char)
  | [] => [[]]
  | c :: cs =>
    if state = .normal ∧ c = '?' then [] :: segmentsFrom backslashEscapes .normal cs
    else consHead c (segmentsFrom backslashEscapes (state.next backslashEscapes c) cs)

theorem consHead_ne_nil (c : Char) (segments : List (List Char)) : consHead c segments ≠ [] := by
  cases segments <;> exact List.cons_ne_nil _ _

theorem segmentsFrom_ne_nil (backslashEscapes : Bool) (state : ScanState) (cs : List Char) :
    segmentsFrom backslashEscapes state cs ≠ [] := by
  cases cs with
  | nil => exact List.cons_ne_nil _ _
  | cons c cs =>
    unfold segmentsFrom
    split
    · exact List.cons_ne_nil _ _
    · exact consHead_ne_nil _ _

/-- One more segment than there are unquoted markers. -/
def segments (backslashEscapes : Bool) (sql : String) : List String :=
  (segmentsFrom backslashEscapes .normal sql.toList).map String.ofList

end SqlRender.Template
