import Mathlib.Data.List.Forall2
import SqlRender.Proofs.Literal
import SqlRender.Proofs.Region

/-!
Names in quotes and how they are read back. A written name is a row of items with dots between
them, each a bare star or a region of quotes that holds its own quote doubled. Main statement: on a
registered dialect reading the items of a written name gives the parts of the name between its
dots, and a scan of the written name meets no marker and ends outside quotes.
-/

namespace SqlRender

open Template

namespace Text

/-- What stands between the quotes of a region, and the text that it stands for. -/
inductive IsDoubled (quote : Char) : List Char → List Char → Prop
  | nil : IsDoubled quote [] []
  | char {c : Char} {body part : List Char} (hc : c ≠ quote) (h : IsDoubled quote body part) :
    IsDoubled quote (c :: body) (c :: part)
  | quote {body part : List Char} (h : IsDoubled quote body part) :
    IsDoubled quote (quote :: quote :: body) (quote :: part)

/-- How one part of a name is written. -/
inductive IsItem (quote : Char) : List Char → List Char → Prop
  | star : IsItem quote ['*'] ['*']
  | region {body part : List Char} (h : IsDoubled quote body part) :
    IsItem quote (quote :: (body ++ [quote])) part

/-- A region behind its opening quote: the text that it stands for, and what follows the quote that
closes it. -/
def region? (quote : Char) : List Char → Option (List Char × List Char)
  | [] => none
  | [c] => if c = quote then some ([], []) else none
  | c :: c' :: cs =>
    if c ≠ quote then (region? quote (c' :: cs)).map fun r ↦ (c :: r.1, r.2)
    else if c' = quote then (region? quote cs).map fun r ↦ (quote :: r.1, r.2)
    else some ([], c' :: cs)

/-- The first item, read, and what follows it. -/
def item? (quote : Char) : List Char → Option (List Char × List Char)
  | [] => none
  | c :: cs =>
    if c = quote then region? quote cs else if c = '*' then some (['*'], cs) else none

theorem length_lt_of_region? {quote : Char} {cs part rest : List Char}
    (h : region? quote cs = some (part, rest)) : rest.length < cs.length := by
  fun_induction region? quote cs generalizing part with
  | case1 => cases h
  | case2 => simp_all
  | case3 => cases h
  | case4 c c' cs _ ih =>
    obtain ⟨r, hr, heq⟩ := Option.map_eq_some_iff.mp h
    cases heq
    have := ih hr
    simp only [List.length_cons] at this ⊢
    omega
  | case5 _ cs _ ih =>
    obtain ⟨r, hr, heq⟩ := Option.map_eq_some_iff.mp h
    cases heq
    have := ih hr
    simp only [List.length_cons]
    omega
  | case6 => simp_all

theorem length_lt_of_item? {quote : Char} {cs part rest : List Char}
    (h : item? quote cs = some (part, rest)) : rest.length < cs.length := by
  cases cs with
  | nil => cases h
  | cons c cs =>
    rw [item?] at h
    split at h
    · exact Nat.lt_succ_of_lt (length_lt_of_region? h)
    · split at h
      · cases h
        exact Nat.lt_succ_self _
      · cases h

/-- The items of a written name, read one after the other. -/
def items? (quote : Char) (cs : List Char) : Option (List (List Char)) :=
  match _h : item? quote cs with
  | none => none
  | some (part, []) => some [part]
  | some (part, c :: rest) => if c = '.' then (items? quote rest).map (part :: ·) else none
termination_by cs.length
decreasing_by
  have := length_lt_of_item? _h
  rw [List.length_cons] at this
  omega

variable {quote : Char}

theorem region?_cons {c : Char} (hc : c ≠ quote) (cs : List Char) :
    region? quote (c :: cs) = (region? quote cs).map fun r ↦ (c :: r.1, r.2) := by
  cases cs with
  | nil => simp [region?, hc]
  | cons c' cs => simp [region?, hc]

/-- The quote that closes a region is the first that stands alone. -/
theorem region?_of_isDoubled {body part : List Char} (h : IsDoubled quote body part)
    {rest : List Char} (hrest : rest.head? ≠ some quote) :
    region? quote (body ++ quote :: rest) = some (part, rest) := by
  induction h with
  | nil =>
    cases rest with
    | nil => simp [region?]
    | cons c rest =>
      have hc : c ≠ quote := by simpa using hrest
      simp [region?, hc]
  | char hc _ ih => rw [List.cons_append, region?_cons hc, ih, Option.map_some]
  | quote _ ih => simp [region?, ih]

theorem item?_of_isItem (hstar : quote ≠ '*') {item part : List Char} (h : IsItem quote item part)
    {rest : List Char} (hrest : rest.head? ≠ some quote) :
    item? quote (item ++ rest) = some (part, rest) := by
  cases h with
  | star => simp [item?, Ne.symm hstar]
  | region h => simpa [item?] using region?_of_isDoubled h hrest

/-- Reading finds where each item ends, whatever dots, stars and quotes stand in it. -/
theorem items?_of_forall₂ (hstar : quote ≠ '*') (hdot : quote ≠ '.')
    {items parts : List (List Char)} (h : List.Forall₂ (IsItem quote) items parts)
    (hne : items ≠ []) :
    items? quote (['.'].intercalate items) = some parts := by
  induction h with
  | nil => exact absurd rfl hne
  | @cons item part items parts hitem hitems ih =>
    cases hitems with
    | nil =>
      have hend : ([] : List Char).head? ≠ some quote := nofun
      have hread := item?_of_isItem hstar hitem hend
      rw [List.append_nil] at hread
      rw [List.intercalate_singleton, items?, hread]
    | @cons item' part' items parts =>
      have hbehind : ('.' :: ['.'].intercalate (item' :: items)).head? ≠ some quote := by
        simpa using Ne.symm hdot
      have hread := item?_of_isItem hstar hitem hbehind
      rw [List.intercalate_cons_cons, List.append_assoc, List.singleton_append, items?, hread]
      simp [ih (List.cons_ne_nil _ _)]

theorem isDoubled_doubled (quote : Char) (part : List Char) :
    IsDoubled quote (doubled [quote] 0 part) part := by
  rw [doubled_singleton]
  induction part with
  | nil => exact .nil
  | cons c part ih =>
    rw [List.flatMap_cons]
    by_cases hc : c = quote
    · rw [if_pos hc, hc]
      exact .quote ih
    · rw [if_neg hc]
      exact .char hc ih

theorem pieces_eq_splitOn (sep : Char) (cs : List Char) : pieces sep cs = cs.splitOn sep := by
  induction cs with
  | nil => simp [pieces]
  | cons c cs ih =>
    rw [pieces, ih, List.splitOn_eq_splitOnP, List.splitOn_eq_splitOnP,
      List.splitOnP_cons_eq_if_modifyHead]
    by_cases hc : c = sep
    · simp [hc]
    · cases hrest : cs.splitOnP (· == sep) with
      | nil => exact absurd hrest (List.splitOnP_ne_nil _ _)
      | cons piece rest => simp [hc]

end Text

namespace Registry

open Text

theorem isItem_quotePart {d : Dialect} {quote : Char}
    (hopen : d.identifierQuotes.1.toList = [quote])
    (hclose : d.identifierQuotes.2.toList = [quote]) (part : List Char) :
    IsItem quote (d.quotePart part) part := by
  rw [Dialect.quotePart, hopen, hclose]
  split
  · next hstar =>
    rw [hstar]
    exact .star
  · exact .region (isDoubled_doubled quote part)

theorem isClosed_quote (d : Dialect) (hd : d ∈ standard.dialects) (name : String) :
    IsClosed d.capabilities.backslashEscapes (d.quote name) ∧
      '?' ∉ unquoted d.capabilities.backslashEscapes (d.quote name) := by
  refine quote_induction (P := fun sql ↦ IsClosed d.capabilities.backslashEscapes sql ∧
    '?' ∉ unquoted d.capabilities.backslashEscapes sql) d hd ?_ ?_ ?_ ?_ name
  · rintro sql ⟨hclosed, hunquoted⟩
    rw [hunquoted]
    exact ⟨hclosed, List.not_mem_nil⟩
  · have hstar : IsPlain "*" := by decide
    rw [hstar.unquoted_eq]
    exact ⟨hstar.isClosed _, by decide⟩
  · have hdot : IsPlain "." := by decide
    rw [hdot.unquoted_eq]
    exact ⟨hdot.isClosed _, by decide⟩
  · rintro xs ys ⟨hxs, hxmark⟩ ⟨hys, hymark⟩
    rw [unquoted_append_of_isClosed _ hxs, List.mem_append, not_or]
    exact ⟨hxs.append _ hys, hxmark, hymark⟩

/-- A written name is a row of items for the parts of the name, which reading gives back; no two
names are written alike, and a scan of the written name stays clear of markers. -/
theorem quote_round_trip (d : Dialect) (hd : d ∈ standard.dialects) (name : String) :
    (∃ quote, d.identifierQuotes = (String.ofList [quote], String.ofList [quote]) ∧
      (∃ items, (d.quote name).toList = ['.'].intercalate items ∧
        List.Forall₂ (IsItem quote) items (name.toList.splitOn '.')) ∧
      items? quote (d.quote name).toList = some (name.toList.splitOn '.')) ∧
    (∀ name', d.quote name' = d.quote name → name' = name) ∧
    segments d.capabilities.backslashEscapes (d.quote name) = [d.quote name] ∧
    IsClosed d.capabilities.backslashEscapes (d.quote name) := by
  obtain ⟨quote, hquote, hopen, hclose, -⟩ := identifierQuotes_eq d hd
  have hstar : quote ≠ '*' := by
    rintro rfl
    cases hquote
  have hdot : quote ≠ '.' := by
    rintro rfl
    cases hquote
  have hwritten (name : String) : (d.quote name).toList =
      ['.'].intercalate ((name.toList.splitOn '.').map d.quotePart) := by
    rw [Dialect.quote, String.toList_ofList, pieces_eq_splitOn]
  have hitems (name : String) : List.Forall₂ (IsItem quote)
      ((name.toList.splitOn '.').map d.quotePart) (name.toList.splitOn '.') := by
    rw [List.forall₂_map_left_iff, List.forall₂_same]
    exact fun part _ ↦ isItem_quotePart hopen hclose part
  have hread (name : String) :
      items? quote (d.quote name).toList = some (name.toList.splitOn '.') := by
    rw [hwritten]
    exact items?_of_forall₂ hstar hdot (hitems name) (by simp [List.splitOn_ne_nil])
  obtain ⟨hclosed, hmark⟩ := isClosed_quote d hd name
  refine ⟨⟨quote, ?_, ⟨_, hwritten name, hitems name⟩, hread name⟩, ?_, ?_, hclosed⟩
  · exact Prod.ext (String.toList_injective (by rw [hopen, String.toList_ofList]))
      (String.toList_injective (by rw [hclose, String.toList_ofList]))
  · intro name' h
    have hparts := hread name'
    rw [h, hread name, Option.some_inj] at hparts
    have hchars := congrArg (['.'].intercalate ·) hparts
    simp only [List.intercalate_splitOn] at hchars
    exact (String.toList_injective hchars).symm
  · rw [segments, segmentsFrom_of_not_mem _ hmark, List.map_singleton, String.ofList_toList]

/-- A quote, a star, a marker, a backslash and an empty part in one name. -/
theorem quote_round_trip_hostile :
    Dialect.mysql ∈ standard.dialects ∧
    Dialect.mysql.quote "a\x60.b.*.?\\." = "\x60a\x60\x60\x60.\x60b\x60.*.\x60?\\\x60.\x60\x60" ∧
    items? '\x60' "\x60a\x60\x60\x60.\x60b\x60.*.\x60?\\\x60.\x60\x60".toList =
      some [['a', '\x60'], ['b'], ['*'], ['?', '\\'], []] ∧
    segments true "\x60a\x60\x60\x60.\x60b\x60.*.\x60?\\\x60.\x60\x60" =
      ["\x60a\x60\x60\x60.\x60b\x60.*.\x60?\\\x60.\x60\x60"] := by
  have hwritten : Dialect.mysql.quote "a\x60.b.*.?\\." =
      "\x60a\x60\x60\x60.\x60b\x60.*.\x60?\\\x60.\x60\x60" := by decide
  obtain ⟨⟨quote, hquotes, -, hread⟩, -, hsegments, -⟩ :=
    quote_round_trip .mysql (by decide) "a\x60.b.*.?\\."
  have hquote : quote = '\x60' := by
    have hopen := congrArg (fun quotes ↦ quotes.1.toList) hquotes
    rw [String.toList_ofList] at hopen
    exact (List.cons.inj hopen).1.symm
  rw [hquote, hwritten] at hread
  rw [hwritten] at hsegments
  exact ⟨by decide, hwritten, hread, hsegments⟩

end Registry

end SqlRender
