import SqlRender.Proofs.Tidy
import SqlRender.Sql.Lexeme

namespace SqlRender.Surface

open Template (ScanState openStep isQuote consHead)
open Template.ScanState (normal quoted)
open Sql (isWordChar)

/-- Where a reading of SQL text stands: in or outside quotes, with a number of parentheses open. -/
structure Place where
  scan : ScanState := .normal
  depth : Nat := 0
  deriving DecidableEq

/-- A blank that is no part of a word. -/
def isGap (c : Char) : Bool := Text.isBlank c && !isWordChar c

variable (backslashEscapes : Bool)

namespace Place

/-- Outside quotes and parentheses. -/
def isTop (p : Place) : Bool := p.scan = .normal && p.depth = 0

/-- A parenthesis inside quotes is no parenthesis, and one that closes nothing is passed over. -/
def next (p : Place) (c : Char) : Place where
  scan := p.scan.next backslashEscapes c
  depth := if p.scan = .normal then (openStep p.depth c).getD 0 else p.depth

def after (p : Place) (cs : List Char) : Place := cs.foldl (next backslashEscapes) p

/-- The characters that are read at the top and leave the reading there. -/
def bare (p : Place) : List Char → List Char
  | [] => []
  | c :: cs =>
    if p.isTop && (p.next backslashEscapes c).isTop then
      c :: bare (p.next backslashEscapes c) cs
    else bare (p.next backslashEscapes c) cs

/-- The character goes on in the one behind it: inside quotes and parentheses, and in a word. -/
def goesOn (p : Place) (c : Char) (behind : Option Char) : Bool :=
  !(p.next backslashEscapes c).isTop || (p.isTop && isWordChar c && behind.any isWordChar)

/-- Words, quoted regions and parentheses with all that stands in them are tokens, and so is every
other character but a blank. -/
def tokens (p : Place) : List Char → List (List Char)
  | [] => []
  | c :: cs =>
    if p.isTop && isGap c then tokens (p.next backslashEscapes c) cs
    else if p.goesOn backslashEscapes c cs.head? then
      consHead c (tokens (p.next backslashEscapes c) cs)
    else [c] :: tokens (p.next backslashEscapes c) cs

end Place

open Place

def tokens (sql : String) : List (List Char) := Place.tokens backslashEscapes {} sql.toList

/-- The text outside quotes and parentheses. -/
def bare (sql : String) : List Char := Place.bare backslashEscapes {} sql.toList

/-- The text leaves no quote and no parenthesis open. -/
def IsLevel (sql : String) : Prop := ({} : Place).after backslashEscapes sql.toList = {}

instance (sql : String) : Decidable (IsLevel backslashEscapes sql) :=
  inferInstanceAs (Decidable (_ = _))

namespace Place

theorem after_append (p : Place) (xs ys : List Char) :
    p.after backslashEscapes (xs ++ ys) =
      (p.after backslashEscapes xs).after backslashEscapes ys := List.foldl_append

theorem after_cons (p : Place) (c : Char) (cs : List Char) :
    p.after backslashEscapes (c :: cs) = (p.next backslashEscapes c).after backslashEscapes cs :=
  rfl

theorem bare_append (p : Place) (xs ys : List Char) :
    p.bare backslashEscapes (xs ++ ys) =
      p.bare backslashEscapes xs ++ (p.after backslashEscapes xs).bare backslashEscapes ys := by
  induction xs generalizing p with
  | nil => rfl
  | cons c cs ih =>
    have hrest := ih (p.next backslashEscapes c)
    rw [List.cons_append, bare, bare]
    split
    · exact congrArg (c :: ·) hrest
    · exact hrest

theorem eq_start_of_isTop {p : Place} (h : p.isTop = true) : p = {} := by
  obtain ⟨scan, depth⟩ := p
  obtain ⟨hscan, hdepth⟩ := Bool.and_eq_true _ _ ▸ h
  cases of_decide_eq_true hscan
  cases of_decide_eq_true hdepth
  rfl

theorem isTop_start : isTop {} = true := rfl

theorem not_isTop_succ (scan : ScanState) (n : Nat) : isTop ⟨scan, n + 1⟩ = false := by
  rw [isTop, decide_eq_false (Nat.succ_ne_zero n), Bool.and_false]

theorem openStep_add {n n' : Nat} {c : Char} (h : openStep n c = some n') (k : Nat) :
    openStep (n + k) c = some (n' + k) := by
  unfold openStep at h ⊢
  split
  · next hopen =>
    rw [if_pos hopen] at h
    obtain rfl := Option.some.inj h
    exact congrArg some (Nat.add_right_comm n k 1)
  · next hopen =>
    rw [if_neg hopen] at h
    split
    · next hclose =>
      rw [if_pos hclose] at h
      cases n with
      | zero => cases h
      | succ n =>
        obtain rfl := Option.some.inj h
        rw [if_neg (Nat.ne_of_gt (Nat.lt_of_lt_of_le n.succ_pos (Nat.le_add_right _ k)))]
        exact congrArg some (by omega)
    · next hclose =>
      rw [if_neg hclose] at h
      obtain rfl := Option.some.inj h
      rfl

/-- One character read, as the text outside quotes has it, in any number of parentheses. -/
theorem next_eq {scan : ScanState} {n m : Nat} {c : Char} {cs : List Char}
    (h : (scan.unquoted backslashEscapes (c :: cs)).foldlM openStep n = some m) :
    ∃ n', (∀ k, next backslashEscapes ⟨scan, n + k⟩ c =
        ⟨scan.next backslashEscapes c, n' + k⟩) ∧
      ((scan.next backslashEscapes c).unquoted backslashEscapes cs).foldlM openStep n' =
        some m := by
  rw [ScanState.unquoted] at h
  cases scan with
  | quoted quote escaped =>
    have hquoted : quoted quote escaped ≠ normal := ScanState.noConfusion
    rw [if_neg fun hc ↦ hquoted hc.1] at h
    exact ⟨n, fun _ ↦ rfl, h⟩
  | normal =>
    cases hquote : isQuote c with
    | true =>
      have hnext := ScanState.next_normal_of_isQuote backslashEscapes hquote
      have hopen (n : Nat) : openStep n c = some n := by
        apply Template.openStep_of_ne
        · rintro rfl
          cases hquote
        · rintro rfl
          cases hquote
      have hquoted : quoted c false ≠ normal := ScanState.noConfusion
      rw [hnext, if_neg fun hc ↦ hquoted hc.2] at h
      refine ⟨n, fun k ↦ ?_, hnext.symm ▸ h⟩
      rw [next, if_pos rfl, hopen]
      rfl
    | false =>
      have hnext := ScanState.next_normal_of_not_isQuote backslashEscapes hquote
      rw [hnext, if_pos ⟨rfl, rfl⟩, List.foldlM_cons] at h
      cases hopen : openStep n c with
      | none =>
        rw [hopen] at h
        cases h
      | some n' =>
        rw [hopen] at h
        refine ⟨n', fun k ↦ ?_, hnext.symm ▸ h⟩
        rw [next, if_pos rfl, openStep_add hopen]
        rfl

theorem after_eq {scan : ScanState} {n m : Nat} {cs : List Char}
    (h : (scan.unquoted backslashEscapes cs).foldlM openStep n = some m) (k : Nat) :
    after backslashEscapes ⟨scan, n + k⟩ cs = ⟨scan.after backslashEscapes cs, m + k⟩ := by
  induction cs generalizing scan n with
  | nil =>
    cases h
    rfl
  | cons c cs ih =>
    obtain ⟨n', hnext, hrest⟩ := next_eq backslashEscapes h
    rw [after_cons, hnext, ih hrest]
    rfl

theorem bare_inside {scan : ScanState} {n m : Nat} {cs : List Char}
    (h : (scan.unquoted backslashEscapes cs).foldlM openStep n = some m) :
    bare backslashEscapes ⟨scan, n + 1⟩ cs = [] := by
  induction cs generalizing scan n with
  | nil => rfl
  | cons c cs ih =>
    obtain ⟨n', hnext, hrest⟩ := next_eq backslashEscapes h
    rw [bare, not_isTop_succ, Bool.false_and, if_neg Bool.false_ne_true, hnext, ih hrest]

theorem bare_eq_unquoted {scan : ScanState} {cs : List Char}
    (hopen : '(' ∉ scan.unquoted backslashEscapes cs)
    (hclose : ')' ∉ scan.unquoted backslashEscapes cs) :
    bare backslashEscapes ⟨scan, 0⟩ cs = scan.unquoted backslashEscapes cs := by
  induction cs generalizing scan with
  | nil => rfl
  | cons c cs ih =>
    have hsame := Template.foldlM_openStep_of_not_mem hopen hclose 0
    obtain ⟨n, hnext, hrest⟩ := next_eq backslashEscapes hsame
    have hsub : ∀ c' ∈ (scan.next backslashEscapes c).unquoted backslashEscapes cs,
        c' ∈ scan.unquoted backslashEscapes (c :: cs) := by
      intro c' hc'
      rw [ScanState.unquoted]
      split
      · exact List.mem_cons_of_mem _ hc'
      · exact hc'
    have hopen' := fun h ↦ hopen (hsub _ h)
    have hclose' := fun h ↦ hclose (hsub _ h)
    rw [Template.foldlM_openStep_of_not_mem hopen' hclose' n] at hrest
    obtain rfl := Option.some.inj hrest
    have htop (scan : ScanState) : isTop ⟨scan, 0⟩ = decide (scan = .normal) := Bool.and_true _
    have hnext := hnext 0
    rw [Nat.add_zero] at hnext
    rw [bare, ScanState.unquoted, hnext, ih hopen' hclose', htop, htop, ← Bool.decide_and]
    simp only [decide_eq_true_eq]

/-- A text in parentheses and what closes them are the end of one token. -/
theorem tokens_inside {scan : ScanState} {n : Nat} {cs : List Char}
    (h : (scan.unquoted backslashEscapes cs).foldlM openStep n = some 0)
    (hclosed : scan.after backslashEscapes cs = normal) :
    tokens backslashEscapes ⟨scan, n + 1⟩ (cs ++ [')']) = [cs ++ [')']] := by
  induction cs generalizing scan n with
  | nil =>
    cases h
    obtain rfl : scan = normal := hclosed
    rfl
  | cons c cs ih =>
    obtain ⟨n', hnext, hrest⟩ := next_eq backslashEscapes h
    have hgoesOn (behind : Option Char) :
        goesOn backslashEscapes ⟨scan, n + 1⟩ c behind = true := by
      rw [goesOn, hnext, not_isTop_succ]
      rfl
    rw [List.cons_append, tokens, not_isTop_succ, Bool.false_and, if_neg Bool.false_ne_true,
      if_pos (hgoesOn _), hnext, ih hrest hclosed]
    rfl

theorem next_of_not_special {c : Char} (hquote : isQuote c = false) (hopen : c ≠ '(')
    (hclose : c ≠ ')') : next backslashEscapes {} c = {} := by
  rw [next, ScanState.next_normal_of_not_isQuote backslashEscapes hquote,
    Template.openStep_of_ne hopen hclose]
  rfl

theorem next_of_isWordChar {c : Char} (h : isWordChar c = true) :
    next backslashEscapes {} c = {} := by
  have hne {c' : Char} (hc : isWordChar c' = false) : c ≠ c' := by
    rintro rfl
    rw [h] at hc
    cases hc
  refine next_of_not_special backslashEscapes ?_ (hne rfl) (hne rfl)
  rw [isQuote, decide_eq_false (hne rfl), decide_eq_false (hne rfl), decide_eq_false (hne rfl)]
  rfl

theorem next_of_isGap {c : Char} (h : isGap c = true) : next backslashEscapes {} c = {} := by
  have hne {c' : Char} (hc : isGap c' = false) : c ≠ c' := by
    rintro rfl
    rw [h] at hc
    cases hc
  refine next_of_not_special backslashEscapes ?_ (hne rfl) (hne rfl)
  rw [isQuote, decide_eq_false (hne rfl), decide_eq_false (hne rfl), decide_eq_false (hne rfl)]
  rfl

theorem tokens_ne_nil {p : Place} {c : Char} {cs : List Char}
    (h : (p.isTop && isGap c) = false) : p.tokens backslashEscapes (c :: cs) ≠ [] := by
  rw [tokens, h, if_neg Bool.false_ne_true]
  split
  · exact Template.consHead_ne_nil _ _
  · exact List.cons_ne_nil _ _

theorem consHead_append (c : Char) {xs : List (List Char)} (h : xs ≠ [])
    (ys : List (List Char)) : consHead c (xs ++ ys) = consHead c xs ++ ys := by
  cases xs with
  | nil => exact absurd rfl h
  | cons x xs => rfl

/-- What is no part of a word ends the last token of a level text in front of it. -/
theorem tokens_append {p : Place} {xs : List Char} (h : p.after backslashEscapes xs = {})
    {c : Char} (hc : isWordChar c = false) (ys : List Char) :
    p.tokens backslashEscapes (xs ++ c :: ys) =
      p.tokens backslashEscapes xs ++ ({} : Place).tokens backslashEscapes (c :: ys) := by
  induction xs generalizing p with
  | nil =>
    obtain rfl : p = {} := h
    rfl
  | cons x xs ih =>
    have hrest := ih h
    have hhead : p.goesOn backslashEscapes x (xs ++ c :: ys).head? =
        p.goesOn backslashEscapes x xs.head? := by
      cases xs with
      | nil => simp [goesOn, hc]
      | cons x' xs => rfl
    rw [List.cons_append, tokens, tokens, hhead, hrest]
    split
    · rfl
    · split
      · next hgoesOn =>
        apply consHead_append
        cases xs with
        | nil =>
          -- Nothing goes on at the end of a level text.
          have hstart : p.next backslashEscapes x = {} := h
          rw [goesOn, hstart] at hgoesOn
          simp [isTop] at hgoesOn
        | cons x' xs =>
          apply tokens_ne_nil
          cases htop : (p.next backslashEscapes x).isTop with
          | false => rfl
          | true =>
            rw [goesOn, htop] at hgoesOn
            have hword : isWordChar x' = true := (Bool.and_eq_true_iff.mp hgoesOn).2
            rw [isGap, hword]
            simp
      · rfl

theorem tokens_cons {p : Place} {c : Char} (h : (p.isTop && isGap c) = false) (cs : List Char) :
    ∃ token rest, p.tokens backslashEscapes (c :: cs) = (c :: token) :: rest := by
  rw [tokens, h, if_neg Bool.false_ne_true]
  split
  · cases (p.next backslashEscapes c).tokens backslashEscapes cs with
    | nil => exact ⟨[], [], rfl⟩
    | cons token rest => exact ⟨token, rest, rfl⟩
  · exact ⟨[], _, rfl⟩

theorem exists_of_mem_head?_consHead {c : Char} {ts : List (List Char)} {token : List Char}
    (h : token ∈ (consHead c ts).head?) :
    ∃ rest, token = c :: rest ∧ (rest = [] ∨ rest ∈ ts.head?) := by
  cases ts with
  | nil =>
    cases h
    exact ⟨[], rfl, .inl rfl⟩
  | cons first ts =>
    cases h
    exact ⟨first, rfl, .inr rfl⟩

theorem mem_consHead {c : Char} {ts : List (List Char)} {token : List Char}
    (h : token ∈ consHead c ts) :
    (∃ rest, token = c :: rest ∧ (rest = [] ∨ rest ∈ ts.head?)) ∨ token ∈ ts.tail := by
  cases ts with
  | nil => exact .inl ⟨[], List.mem_singleton.mp h, .inl rfl⟩
  | cons first ts =>
    obtain rfl | h := List.mem_cons.mp h
    · exact .inl ⟨first, rfl, .inr rfl⟩
    · exact .inr h

theorem length_le_of_mem_tokens {p : Place} {cs token : List Char}
    (h : token ∈ p.tokens backslashEscapes cs) : token.length ≤ cs.length := by
  induction cs generalizing p token with
  | nil => exact absurd h List.not_mem_nil
  | cons c cs ih =>
    rw [tokens] at h
    split at h
    · exact Nat.le_succ_of_le (ih h)
    · split at h
      · obtain ⟨rest, rfl, rfl | hrest⟩ | h := mem_consHead h
        · exact Nat.succ_le_succ (Nat.zero_le _)
        · exact Nat.succ_le_succ (ih (List.mem_of_mem_head? hrest))
        · exact Nat.le_succ_of_le (ih (List.mem_of_mem_tail h))
      · obtain rfl | h := List.mem_cons.mp h
        · exact Nat.succ_le_succ (Nat.zero_le _)
        · exact Nat.le_succ_of_le (ih h)

theorem tokens_of_opens {c : Char} (h : (next backslashEscapes {} c).isTop = false)
    (cs : List Char) :
    isWordChar c = false ∧
      tokens backslashEscapes {} (c :: cs) =
        consHead c (tokens backslashEscapes (next backslashEscapes {} c) cs) ∧
      bare backslashEscapes {} (c :: cs) =
        bare backslashEscapes (next backslashEscapes {} c) cs := by
  have hne (hc : next backslashEscapes {} c = {}) : False := by
    rw [hc] at h
    cases h
  have hgap : isGap c = false :=
    Bool.eq_false_iff.mpr fun hc ↦ hne (next_of_isGap backslashEscapes hc)
  refine ⟨Bool.eq_false_iff.mpr fun hc ↦ hne (next_of_isWordChar backslashEscapes hc), ?_, ?_⟩
  · rw [tokens, hgap, Bool.and_false, if_neg Bool.false_ne_true, goesOn, h, Bool.not_false,
      Bool.true_or, if_pos rfl]
  · rw [bare, h, Bool.and_false, if_neg Bool.false_ne_true]

theorem bare_of_top {c : Char} (h : next backslashEscapes {} c = {}) (cs : List Char) :
    bare backslashEscapes {} (c :: cs) = c :: bare backslashEscapes {} cs := by
  rw [bare, h]
  rfl

/-- The first token inside quotes and parentheses is the end of what was open before. -/
theorem tokens_of_not_isTop {p : Place} (h : p.isTop = false) (c : Char) (cs : List Char) :
    (p.tokens backslashEscapes (c :: cs)).tail =
        (if (p.next backslashEscapes c).isTop then
          (p.next backslashEscapes c).tokens backslashEscapes cs
        else ((p.next backslashEscapes c).tokens backslashEscapes cs).tail) ∧
      p.bare backslashEscapes (c :: cs) = (p.next backslashEscapes c).bare backslashEscapes cs := by
  have hgoesOn : p.goesOn backslashEscapes c cs.head? = !(p.next backslashEscapes c).isTop := by
    rw [goesOn, h, Bool.false_and, Bool.false_and, Bool.or_false]
  refine ⟨?_, ?_⟩
  · rw [tokens, h, Bool.false_and, if_neg Bool.false_ne_true, hgoesOn]
    cases (p.next backslashEscapes c).isTop with
    | true => rfl
    | false =>
      cases (p.next backslashEscapes c).tokens backslashEscapes cs with
      | nil => rfl
      | cons first rest => rfl
  · rw [bare, h, Bool.false_and, if_neg Bool.false_ne_true]

/-- A token that opens nothing is bare, and the first token is where the bare text begins. What was
open before is no token of its own. -/
structure TokensAreBare (p : Place) (cs : List Char) : Prop where
  isInfix : ∀ token ∈ (if p.isTop then p.tokens backslashEscapes cs
    else (p.tokens backslashEscapes cs).tail),
      (∀ c ∈ token, next backslashEscapes {} c = {}) → token <:+: p.bare backslashEscapes cs
  isPrefix : p.isTop = true → cs.head?.any isWordChar = true →
    ∀ token ∈ (p.tokens backslashEscapes cs).head?,
      (∀ c ∈ token, next backslashEscapes {} c = {}) → token <+: p.bare backslashEscapes cs

namespace TokensAreBare

variable {backslashEscapes} {c : Char} {cs : List Char}

theorem cons_of_not_isTop {p : Place} (hp : p.isTop = false)
    (h : TokensAreBare backslashEscapes (p.next backslashEscapes c) cs) :
    TokensAreBare backslashEscapes p (c :: cs) := by
  obtain ⟨htail, hbare⟩ := tokens_of_not_isTop backslashEscapes hp c cs
  refine ⟨?_, fun htop ↦ absurd (hp.symm.trans htop) Bool.false_ne_true⟩
  rw [hp, if_neg Bool.false_ne_true, htail, hbare]
  exact h.isInfix

theorem cons_of_opens (hnext : (next backslashEscapes {} c).isTop = false)
    (h : TokensAreBare backslashEscapes (next backslashEscapes {} c) cs) :
    TokensAreBare backslashEscapes {} (c :: cs) := by
  obtain ⟨hword, htokens, hbare⟩ := tokens_of_opens backslashEscapes hnext cs
  refine ⟨?_, fun _ hhead ↦ absurd (hword.symm.trans hhead) Bool.false_ne_true⟩
  have hrest := h.isInfix
  rw [hnext, if_neg Bool.false_ne_true] at hrest
  intro token htoken hall
  rw [if_pos isTop_start, htokens] at htoken
  rw [hbare]
  obtain ⟨rest, rfl, -⟩ | htoken := mem_consHead htoken
  · rw [hall c List.mem_cons_self] at hnext
    cases hnext
  · exact hrest token htoken hall

variable (hnext : next backslashEscapes {} c = {}) (h : TokensAreBare backslashEscapes {} cs)

include hnext h

theorem isInfix_cons {token : List Char} (htoken : token ∈ tokens backslashEscapes {} cs)
    (hall : ∀ c ∈ token, next backslashEscapes {} c = {}) :
    token <:+: bare backslashEscapes {} (c :: cs) := by
  rw [bare_of_top backslashEscapes hnext]
  exact (h.isInfix token htoken hall).trans (List.suffix_cons c _).isInfix

theorem cons_of_isGap (hgap : isGap c = true) :
    TokensAreBare backslashEscapes {} (c :: cs) := by
  have hword : isWordChar c = false := by
    rw [isGap, Bool.and_eq_true_iff, Bool.not_eq_true'] at hgap
    exact hgap.2
  have htokens : tokens backslashEscapes {} (c :: cs) = tokens backslashEscapes {} cs := by
    rw [tokens, hgap, hnext]
    rfl
  refine ⟨?_, fun _ hhead ↦ absurd (hword.symm.trans hhead) Bool.false_ne_true⟩
  rw [if_pos isTop_start, htokens]
  exact fun token htoken hall ↦ h.isInfix_cons hnext htoken hall

theorem cons_of_goesOn (hbehind : cs.head?.any isWordChar = true)
    (htokens : tokens backslashEscapes {} (c :: cs) =
      consHead c (tokens backslashEscapes {} cs)) :
    TokensAreBare backslashEscapes {} (c :: cs) := by
  -- The token that `c` begins goes on in the first token behind it, which is a prefix there.
  have hfirst (rest : List Char)
      (hrest : rest = [] ∨ rest ∈ (tokens backslashEscapes {} cs).head?)
      (hall : ∀ c' ∈ c :: rest, next backslashEscapes {} c' = {}) :
      c :: rest <+: bare backslashEscapes {} (c :: cs) := by
    rw [bare_of_top backslashEscapes hnext, List.prefix_cons_inj]
    obtain rfl | hrest := hrest
    · exact List.nil_prefix
    · exact h.isPrefix rfl hbehind rest hrest (List.forall_mem_cons.mp hall).2
  refine ⟨?_, ?_⟩
  · rw [if_pos isTop_start, htokens]
    intro token htoken hall
    obtain ⟨rest, rfl, hrest⟩ | htoken := mem_consHead htoken
    · exact (hfirst rest hrest hall).isInfix
    · exact h.isInfix_cons hnext (List.mem_of_mem_tail htoken) hall
  · rw [htokens]
    intro _ _ token htoken hall
    obtain ⟨rest, rfl, hrest⟩ := exists_of_mem_head?_consHead htoken
    exact hfirst rest hrest hall

theorem cons_of_ends
    (htokens : tokens backslashEscapes {} (c :: cs) = [c] :: tokens backslashEscapes {} cs) :
    TokensAreBare backslashEscapes {} (c :: cs) := by
  have hfirst : [c] <+: bare backslashEscapes {} (c :: cs) := by
    rw [bare_of_top backslashEscapes hnext]
    exact List.prefix_append [c] _
  refine ⟨?_, ?_⟩
  · rw [if_pos isTop_start, htokens]
    intro token htoken hall
    obtain rfl | htoken := List.mem_cons.mp htoken
    · exact hfirst.isInfix
    · exact h.isInfix_cons hnext htoken hall
  · rw [htokens]
    intro _ _ token htoken _
    cases htoken
    exact hfirst

end TokensAreBare

theorem tokensAreBare (p : Place) (cs : List Char) : TokensAreBare backslashEscapes p cs := by
  induction cs generalizing p with
  | nil =>
    refine ⟨?_, nofun⟩
    intro token htoken
    rw [tokens, List.tail_nil, ite_self] at htoken
    cases htoken
  | cons c cs ih =>
    have hbehind := ih (p.next backslashEscapes c)
    cases htop : p.isTop with
    | false => exact .cons_of_not_isTop htop hbehind
    | true =>
      obtain rfl := eq_start_of_isTop htop
      cases hnext : (next backslashEscapes {} c).isTop with
      | false => exact .cons_of_opens hnext hbehind
      | true =>
        have hstart := eq_start_of_isTop hnext
        rw [hstart] at hbehind
        cases hgap : isGap c with
        | true => exact .cons_of_isGap hstart hbehind hgap
        | false =>
          have htokens : tokens backslashEscapes {} (c :: cs) =
              if isWordChar c && cs.head?.any isWordChar then
                consHead c (tokens backslashEscapes {} cs)
              else [c] :: tokens backslashEscapes {} cs := by
            rw [tokens, hgap, Bool.and_false, if_neg Bool.false_ne_true, goesOn, hstart]
            rfl
          split at htokens
          · next hwords =>
            exact .cons_of_goesOn hstart hbehind (Bool.and_eq_true_iff.mp hwords).2 htokens
          · exact .cons_of_ends hstart hbehind htokens

end Place

open Template (IsClosed unquoted)

variable {backslashEscapes} {sql xs ys : String}

theorem IsLevel.append (hx : IsLevel backslashEscapes xs) (hy : IsLevel backslashEscapes ys) :
    IsLevel backslashEscapes (xs ++ ys) := by
  rw [IsLevel, String.toList_append, after_append, hx]
  exact hy

theorem bare_append (hx : IsLevel backslashEscapes xs) (ys : String) :
    bare backslashEscapes (xs ++ ys) = bare backslashEscapes xs ++ bare backslashEscapes ys := by
  rw [bare, String.toList_append, Place.bare_append, hx]
  rfl

/-- A text that closes all that it opens. -/
structure IsNested (backslashEscapes : Bool) (sql : String) : Prop where
  closed : IsClosed backslashEscapes sql
  balanced : (unquoted backslashEscapes sql).foldlM openStep 0 = some 0

theorem IsNested.of_isTidy {markers : Nat} (h : Template.IsTidy backslashEscapes markers sql) :
    IsNested backslashEscapes sql := ⟨h.closed, h.balanced 0⟩

/-- The tokens of a text in parentheses. -/
def group (sql : String) : List (List Char) := ['(' :: (sql.toList ++ [')'])]

namespace IsNested

variable (h : IsNested backslashEscapes sql)

include h

theorem after_eq (depth : Nat) :
    after backslashEscapes ⟨normal, depth⟩ sql.toList = ⟨normal, depth⟩ := by
  have hafter := Place.after_eq backslashEscapes h.balanced depth
  rw [Nat.zero_add, h.closed] at hafter
  exact hafter

theorem isLevel : IsLevel backslashEscapes sql := h.after_eq 0

omit h in
theorem toList_parenthesized (sql : String) :
    ("(" ++ sql ++ ")").toList = '(' :: (sql.toList ++ [')']) := by
  rw [String.toList_append, String.toList_append]
  rfl

theorem isLevel_parenthesized : IsLevel backslashEscapes ("(" ++ sql ++ ")") := by
  rw [IsLevel, toList_parenthesized, after_cons, after_append]
  show (after backslashEscapes (after backslashEscapes ⟨normal, 1⟩ sql.toList) [')']) = {}
  rw [h.after_eq]
  rfl

theorem bare_parenthesized : bare backslashEscapes ("(" ++ sql ++ ")") = [] := by
  rw [bare, toList_parenthesized]
  show Place.bare backslashEscapes ⟨normal, 1⟩ (sql.toList ++ [')']) = []
  rw [Place.bare_append, Place.bare_inside backslashEscapes h.balanced, h.after_eq]
  rfl

theorem tokens_parenthesized :
    tokens backslashEscapes ("(" ++ sql ++ ")") = group sql := by
  have hinside := Place.tokens_inside backslashEscapes h.balanced h.closed
  rw [tokens, toList_parenthesized]
  show consHead '(' (Place.tokens backslashEscapes ⟨normal, 1⟩ (sql.toList ++ [')'])) = _
  rw [hinside]
  rfl

end IsNested

theorem bare_eq_unquoted (hclosed : IsClosed backslashEscapes sql)
    (hopen : '(' ∉ unquoted backslashEscapes sql) (hclose : ')' ∉ unquoted backslashEscapes sql) :
    IsLevel backslashEscapes sql ∧ bare backslashEscapes sql = unquoted backslashEscapes sql := by
  have hnested : IsNested backslashEscapes sql :=
    ⟨hclosed, Template.foldlM_openStep_of_not_mem hopen hclose 0⟩
  exact ⟨hnested.isLevel, Place.bare_eq_unquoted backslashEscapes hopen hclose⟩

theorem tokens_append (hx : IsLevel backslashEscapes xs) {ys : String} {c : Char}
    {cs : List Char} (hys : ys.toList = c :: cs) (hc : isWordChar c = false) :
    tokens backslashEscapes (xs ++ ys) =
      tokens backslashEscapes xs ++ tokens backslashEscapes ys := by
  rw [tokens, String.toList_append, hys, Place.tokens_append backslashEscapes hx hc, ← hys]
  rfl

theorem tokens_blank_append (ys : String) :
    tokens backslashEscapes (" " ++ ys) = tokens backslashEscapes ys := by
  rw [tokens, String.toList_append]
  rfl

theorem tokens_append_blank (hx : IsLevel backslashEscapes xs) (ys : String) :
    tokens backslashEscapes (xs ++ " " ++ ys) =
      tokens backslashEscapes xs ++ tokens backslashEscapes ys := by
  have hblank : (" " ++ ys).toList = ' ' :: ys.toList := String.toList_append
  rw [String.append_assoc, tokens_append hx hblank rfl, tokens_blank_append]

/-- Texts between separators that are no part of a word have their own tokens. -/
theorem tokens_intercalate_of {separator : String} {separators : List (List Char)}
    (hhead : separator.toList.head?.any (fun c ↦ !isWordChar c) = true)
    (hseparator : ∀ ys, tokens backslashEscapes (separator ++ ys) =
      separators ++ tokens backslashEscapes ys)
    {sqls : List String} (h : ∀ sql ∈ sqls, IsLevel backslashEscapes sql) :
    tokens backslashEscapes (separator.intercalate sqls) =
      separators.intercalate (sqls.map (tokens backslashEscapes)) := by
  induction sqls with
  | nil => rfl
  | cons sql rest ih =>
    obtain ⟨hsql, hrest⟩ := List.forall_mem_cons.mp h
    cases rest with
    | nil => simp
    | cons sql' rest =>
      cases hchars : separator.toList with
      | nil =>
        rw [hchars] at hhead
        cases hhead
      | cons c cs =>
        rw [hchars] at hhead
        have hc : isWordChar c = false := Bool.not_eq_true' _ ▸ hhead
        have hbehind : (separator ++ separator.intercalate (sql' :: rest)).toList =
            c :: (cs ++ (separator.intercalate (sql' :: rest)).toList) := by
          rw [String.toList_append, hchars]
          rfl
        rw [String.intercalate_cons_cons, String.append_assoc, tokens_append hsql hbehind hc,
          hseparator, ih hrest]
        simp only [List.map_cons, List.intercalate_cons_cons, List.append_assoc]

theorem tokens_intercalate {word : String} (hword : IsLevel backslashEscapes word)
    {sqls : List String} (h : ∀ sql ∈ sqls, IsLevel backslashEscapes sql) :
    tokens backslashEscapes ((" " ++ word ++ " ").intercalate sqls) =
      (tokens backslashEscapes word).intercalate (sqls.map (tokens backslashEscapes)) := by
  have hhead : (" " ++ word ++ " ").toList = ' ' :: (word ++ " ").toList := by
    rw [String.append_assoc, String.toList_append]
    rfl
  apply tokens_intercalate_of
  · rw [hhead]
    rfl
  · intro ys
    have hsplit : " " ++ word ++ " " ++ ys = " " ++ (word ++ " " ++ ys) := by
      simp only [String.append_assoc]
    rw [hsplit, tokens_blank_append, tokens_append_blank hword]
  · exact h

/-- A comma between texts is a token of its own. -/
theorem tokens_intercalate_comma {sqls : List String}
    (h : ∀ sql ∈ sqls, IsLevel backslashEscapes sql) :
    tokens backslashEscapes (", ".intercalate sqls) =
      [[',']].intercalate (sqls.map (tokens backslashEscapes)) := by
  apply tokens_intercalate_of
  · rfl
  · intro ys
    rw [tokens, String.toList_append]
    rfl
  · exact h

section Split

variable {α : Type} {p : α → Bool}

theorem subset_of_mem_splitOnP {xs piece : List α} (h : piece ∈ xs.splitOnP p) : piece ⊆ xs := by
  induction xs generalizing piece with
  | nil =>
    rw [List.splitOnP_nil, List.mem_singleton] at h
    rw [h]
    exact List.nil_subset _
  | cons x rest ih =>
    rw [List.splitOnP_cons_eq_if_modifyHead] at h
    split at h
    · obtain rfl | h := List.mem_cons.mp h
      · exact List.nil_subset _
      · exact List.subset_cons_of_subset x (ih h)
    · cases hrest : rest.splitOnP p with
      | nil => exact absurd hrest (List.splitOnP_ne_nil p rest)
      | cons first pieces =>
        rw [hrest] at h ih
        obtain rfl | h := List.mem_cons.mp h
        · exact List.cons_subset_cons x (ih List.mem_cons_self)
        · exact List.subset_cons_of_subset x (ih (List.mem_cons_of_mem first h))

theorem splitOnP_intercalate {sep : α} (hsep : p sep = true) {pieces : List (List α)}
    (hne : pieces ≠ []) (h : ∀ piece ∈ pieces, ∀ x ∈ piece, p x = false) :
    ([sep].intercalate pieces).splitOnP p = pieces := by
  induction pieces with
  | nil => exact absurd rfl hne
  | cons piece rest ih =>
    obtain ⟨hpiece, hrest⟩ := List.forall_mem_cons.mp h
    cases rest with
    | nil => rw [List.intercalate_singleton, List.splitOnP_eq_singleton hpiece]
    | cons piece' rest =>
      rw [List.intercalate_cons_cons, List.append_assoc, List.singleton_append,
        List.splitOnP_append_cons_of_forall_mem hpiece sep hsep, ih (List.cons_ne_nil _ _) hrest]

theorem intercalate_eq_flatMap (sep piece : List α) (rest : List (List α)) :
    sep.intercalate (piece :: rest) = piece ++ rest.flatMap (sep ++ ·) := by
  induction rest generalizing piece with
  | nil => rw [List.intercalate_singleton, List.flatMap_nil, List.append_nil]
  | cons piece' rest ih =>
    rw [List.intercalate_cons_cons, ih, List.flatMap_cons, List.append_assoc, List.append_assoc]

theorem mem_of_mem_intercalate {sep x : α} {pieces : List (List α)}
    (h : x ∈ [sep].intercalate pieces) : x = sep ∨ ∃ piece ∈ pieces, x ∈ piece := by
  cases pieces with
  | nil => exact absurd h List.not_mem_nil
  | cons piece rest =>
    rw [intercalate_eq_flatMap, List.mem_append, List.mem_flatMap] at h
    obtain h | ⟨other, hother, h⟩ := h
    · exact .inr ⟨piece, List.mem_cons_self, h⟩
    · obtain h | h := List.mem_cons.mp h
      · exact .inl h
      · exact .inr ⟨other, List.mem_cons_of_mem piece hother, h⟩

theorem length_splitOnP (p : α → Bool) (xs : List α) :
    (xs.splitOnP p).length = xs.countP p + 1 := by
  induction xs with
  | nil => rw [List.splitOnP_nil, List.countP_nil, List.length_singleton]
  | cons x rest ih =>
    rw [List.splitOnP_cons_eq_if_modifyHead]
    split
    · next h => rw [List.length_cons, ih, List.countP_cons_of_pos h]
    · next h => rw [List.length_modifyHead, ih, List.countP_cons_of_neg h]

/-- What stands behind the first item of a separator belongs to the next piece. -/
theorem intercalate_cons (sep : α) (tail piece : List α) (rest : List (List α)) :
    (sep :: tail).intercalate (piece :: rest) =
      [sep].intercalate (piece :: rest.map (tail ++ ·)) := by
  rw [intercalate_eq_flatMap, intercalate_eq_flatMap, List.flatMap_map]
  rfl

end Split

/-- A token that opens neither quotes nor parentheses is bare. -/
theorem infix_bare_of_mem_tokens {token : List Char} (h : token ∈ tokens backslashEscapes sql)
    (hnext : ∀ c ∈ token, Place.next backslashEscapes {} c = {}) :
    token <:+: bare backslashEscapes sql :=
  (tokensAreBare backslashEscapes {} sql.toList).isInfix token h hnext

end SqlRender.Surface
