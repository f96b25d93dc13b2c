import OpticalTestbed.Proofs.Json.Tokens
import OpticalTestbed.Proofs.Json.Values
/-!
Documents are read back as they were written, with the members of objects by ascending name. Fuel is
measured by the written text, since every call of the reader takes a character at least.
-/
namespace OpticalTestbed.Json

variable {n d j k : Nat} {cs rest more : List Char} {v : Json}

section Steps

theorem skipSpace_newLine (k : Nat) (cs : List Char) :
    skipSpace (newLine k ++ cs) = skipSpace cs := by
  refine List.dropWhile_append_of_pos fun c hc => ?_
  rw [newLine, List.mem_cons] at hc
  rcases hc with rfl | hc
  · rfl
  · rw [List.eq_of_mem_replicate hc]
    rfl

/-- Blanks in front of a value do not matter. -/
theorem value?_congr {cs' : List Char} (h : skipSpace cs = skipSpace cs') (n d : Nat) :
    value? n d cs = value? n d cs' := by
  cases n with
  | zero => rfl
  | succ n => simp only [value?, h]

theorem value?_newLine (n d k : Nat) (cs : List Char) :
    value? n d (newLine k ++ cs) = value? n d cs := value?_congr (skipSpace_newLine k cs) n d

/-- No value begins with what closes a list or an object. -/
theorem value?_closing {c : Char} (hc : c = ']' ∨ c = '}') (h : skipSpace cs = c :: more) :
    value? n d cs = none := by
  cases n with
  | zero => rfl
  | succ n =>
    rw [value?, h]
    rcases hc with rfl | rfl <;> rfl

theorem value?_text (s : String) : value? (n + 1) d (quoted s ++ rest) = some (str s, rest) := by
  obtain ⟨inside, hinside, hchars⟩ := quoted_read s rest
  simp [hinside, value?, skipSpace, hchars]

/-- A digit begins a number. -/
theorem value?_digit {c : Char} (h : Text.isAsciiDigit c = true) :
    value? (n + 1) d (c :: cs) = unsigned? false (c :: cs) := by
  have hspace : skipSpace (c :: cs) = c :: cs := by
    refine List.dropWhile_cons_of_neg ?_
    simp only [decide_eq_true_eq]
    rintro (rfl | rfl | rfl | rfl) <;> cases h
  rw [value?, hspace]
  split
  all_goals first | rfl | (rename_i heq; cases heq; cases h)

theorem value?_minus (cs : List Char) : value? (n + 1) d ('-' :: cs) = unsigned? true cs := by
  simp [value?, skipSpace]

theorem value?_array {vs : List Json} (h : arrayItems? n d cs = some (vs, rest)) :
    value? (n + 1) (d + 1) ('[' :: cs) = some (arr vs, rest) := by
  have hspace : skipSpace ('[' :: cs) = '[' :: cs := rfl
  simp only [value?, hspace]
  split
  · rename_i hclosing
    cases n with
    | zero => cases h
    | succ n =>
      rw [arrayItems?, value?_closing (.inl rfl) hclosing] at h
      cases h
  · rw [h, Option.map_some]

theorem value?_object {e : Dict String Json}
    (h : objectMembers? n d cs Dict.empty = some (e, rest)) :
    value? (n + 1) (d + 1) ('{' :: cs) = some (ofDict e, rest) := by
  have hspace : skipSpace ('{' :: cs) = '{' :: cs := rfl
  simp only [value?, hspace]
  split
  · rename_i hclosing
    cases n with
    | zero => cases h
    | succ n =>
      rw [objectMembers?, hclosing] at h
      cases h
  · rw [h, Option.map_some]

theorem arrayItems?_last (h : value? n d cs = some (v, newLine j ++ ']' :: rest)) :
    arrayItems? (n + 1) d cs = some ([v], rest) := by
  have hspace : skipSpace (']' :: rest) = ']' :: rest := rfl
  simp only [arrayItems?, h, skipSpace_newLine, hspace]

theorem arrayItems?_more {vs : List Json} (h : value? n d cs = some (v, ',' :: more))
    (hmore : arrayItems? n d more = some (vs, rest)) :
    arrayItems? (n + 1) d cs = some (v :: vs, rest) := by
  have hspace : skipSpace (',' :: more) = ',' :: more := rfl
  simp only [arrayItems?, h, hspace, hmore, Option.map_some]

/-- The name of a member is taken, then its value, and what stands behind it decides. -/
theorem objectMembers?_named {name : String} {acc : Dict String Json}
    (h : value? n d cs = some (v, more)) :
    (skipSpace more = '}' :: rest →
      objectMembers? (n + 1) d (newLine k ++ (quoted name ++ ':' :: ' ' :: cs)) acc =
        some (acc.insert name v, rest)) ∧
    (skipSpace more = ',' :: rest →
      objectMembers? (n + 1) d (newLine k ++ (quoted name ++ ':' :: ' ' :: cs)) acc =
        objectMembers? n d rest (acc.insert name v)) := by
  obtain ⟨inside, hinside, hchars⟩ := quoted_read name (':' :: ' ' :: cs)
  have hquote : skipSpace ('"' :: inside) = '"' :: inside := rfl
  have hcolon : skipSpace (':' :: ' ' :: cs) = ':' :: ' ' :: cs := rfl
  have hblank : value? n d (' ' :: cs) = value? n d cs :=
    value?_congr (show skipSpace (' ' :: cs) = skipSpace cs from rfl) n d
  constructor
  · intro hlast
    rw [objectMembers?]
    simp only [skipSpace_newLine, hinside, hquote, hchars, hcolon, hblank, h, hlast]
  · intro hmore
    rw [objectMembers?]
    simp only [skipSpace_newLine, hinside, hquote, hchars, hcolon, hblank, h, hmore]

theorem objectMembers?_last {name : String} {acc : Dict String Json}
    (h : value? n d cs = some (v, newLine j ++ '}' :: rest)) :
    objectMembers? (n + 1) d (newLine k ++ (quoted name ++ ':' :: ' ' :: cs)) acc =
      some (acc.insert name v, rest) := (objectMembers?_named h).1 (skipSpace_newLine j _)

theorem objectMembers?_more {name : String} {acc : Dict String Json}
    (h : value? n d cs = some (v, ',' :: more)) :
    objectMembers? (n + 1) d (newLine k ++ (quoted name ++ ':' :: ' ' :: cs)) acc =
      objectMembers? n d more (acc.insert name v) := (objectMembers?_named h).2 rfl

end Steps

section Numbers

theorem value?_int {i : Int} (h : -(Nat.pow 2 63 : Int) ≤ i ∧ i ≤ max64) (hrest : Ends rest) :
    value? (n + 1) d (intText i ++ rest) = some (int i, rest) := by
  cases i with
  | ofNat i =>
    have hfits : i ≤ max64 := Int.ofNat_le.1 h.2
    obtain ⟨c, cs, hcs⟩ := List.exists_cons_of_ne_nil (Numeral.decimal_ne_nil i)
    have hdigit := Numeral.isAsciiDigit_of_mem_decimal i c (hcs ▸ List.mem_cons_self)
    have hread := unsigned?_decimal hfits hrest
    rw [intText]
    rw [hcs, List.cons_append] at hread ⊢
    rw [value?_digit hdigit, hread]
    rfl
  | negSucc i =>
    have hfits : i + 1 ≤ Nat.pow 2 63 := by
      have hlow := h.1
      have hpow : Nat.pow 2 63 = 9223372036854775808 := rfl
      omega
    rw [intText, List.cons_append, value?_minus,
      unsigned?_decimal_negative (Nat.succ_pos i) hfits hrest]
    rfl

theorem value?_zero (hrest : Ends rest) :
    value? (n + 1) d ((Binary64.zero false).text ++ rest) =
      some (real (Binary64.zero false), rest) := by
  have hread := unsigned?_zero hrest
  have htext : (Binary64.zero false).text = ['0', '.', '0'] := rfl
  rw [htext, List.cons_append] at hread ⊢
  rw [value?_digit (by decide), hread]

end Numbers

theorem ends_newLine (k : Nat) (cs : List Char) : Ends (newLine k ++ cs) := by
  rw [newLine, List.cons_append]
  exact ⟨by decide, by decide, by decide, by decide⟩

theorem ends_comma (cs : List Char) : Ends (',' :: cs) :=
  ⟨by decide, by decide, by decide, by decide⟩

theorem indented_length_pos (h : v.Admits OnlyZero) (k : Nat) : 0 < (indented k v).length := by
  cases v with
  | null => exact Nat.succ_pos _
  | bool b => cases b <;> exact Nat.succ_pos _
  | int i =>
    cases i with
    | ofNat i => exact List.length_pos_iff.2 (Numeral.decimal_ne_nil i)
    | negSucc i => exact Nat.succ_pos _
  | real x =>
    obtain rfl : x = Binary64.zero false := h
    exact Nat.succ_pos _
  | str s => exact Nat.succ_pos _
  | arr items => cases items <;> exact Nat.succ_pos _
  | obj members => cases members <;> exact Nat.succ_pos _

mutual

theorem value?_indented (v : Json) {n d k : Nat} {rest : List Char} (hv : v.Admits OnlyZero)
    (hd : v.depth ≤ d) (hn : (indented k v).length ≤ n) (hrest : Ends rest) :
    value? n d (indented k v ++ rest) = some (v.canonical, rest) := by
  have hpos := indented_length_pos hv k
  obtain ⟨n, rfl⟩ : ∃ m, n = m + 1 := ⟨n - 1, by omega⟩
  cases v with
  | null => rfl
  | bool b => cases b <;> rfl
  | int i => exact value?_int hv hrest
  | real x =>
    obtain rfl : x = Binary64.zero false := hv
    exact value?_zero hrest
  | str s => exact value?_text s
  | arr items =>
    rw [depth] at hd
    obtain ⟨d, rfl⟩ : ∃ e, d = e + 1 := ⟨d - 1, by omega⟩
    cases items with
    | nil => rfl
    | cons v vs =>
      simp only [indented, List.length_append, List.length_cons] at hn
      have hitems : arrayItems? n d
          (indentedItems (k + 1) (v :: vs) ++ (newLine k ++ ']' :: rest)) =
            some (canonicalItems (v :: vs), rest) :=
        arrayItems?_indented (v :: vs) (List.cons_ne_nil v vs) hv (by omega) (by omega)
      have htext : indented k (arr (v :: vs)) ++ rest =
          '[' :: (indentedItems (k + 1) (v :: vs) ++ (newLine k ++ ']' :: rest)) := by
        simp [indented]
      rw [htext, value?_array hitems, canonical]
  | obj members =>
    rw [depth] at hd
    obtain ⟨d, rfl⟩ : ∃ e, d = e + 1 := ⟨d - 1, by omega⟩
    cases members with
    | nil => rfl
    | cons m ms =>
      simp only [indented, List.length_append, List.length_cons] at hn
      have hmembers : objectMembers? n d
          (indentedMembers (k + 1) (m :: ms) ++ (newLine k ++ '}' :: rest)) Dict.empty =
            some (Dict.ofList (canonicalMembers (m :: ms)), rest) :=
        objectMembers?_indented (m :: ms) (List.cons_ne_nil m ms) hv (by omega) (by omega)
      have htext : indented k (obj (m :: ms)) ++ rest =
          '{' :: (indentedMembers (k + 1) (m :: ms) ++ (newLine k ++ '}' :: rest)) := by
        simp [indented]
      rw [htext, value?_object hmembers, canonical]

theorem arrayItems?_indented (vs : List Json) (hne : vs ≠ []) {n d k j : Nat} {rest : List Char}
    (hv : AdmitsItems OnlyZero vs) (hd : depthOfItems vs ≤ d)
    (hn : (indentedItems k vs).length ≤ n) :
    arrayItems? n d (indentedItems k vs ++ (newLine j ++ ']' :: rest)) =
      some (canonicalItems vs, rest) := by
  cases vs with
  | nil => exact absurd rfl hne
  | cons v vs =>
    rw [depthOfItems] at hd
    cases vs with
    | nil =>
      simp only [indentedItems, newLine, List.length_append, List.length_cons] at hn
      obtain ⟨n, rfl⟩ : ∃ m, n = m + 1 := ⟨n - 1, by omega⟩
      have hvalue : value? n d (indented k v ++ (newLine j ++ ']' :: rest)) =
          some (v.canonical, newLine j ++ ']' :: rest) :=
        value?_indented v hv.1 (by omega) (by omega) (ends_newLine j _)
      rw [indentedItems, List.append_assoc]
      exact arrayItems?_last ((value?_newLine n d k _).trans hvalue)
    | cons w ws =>
      simp only [indentedItems, newLine, List.length_append, List.length_cons] at hn
      obtain ⟨n, rfl⟩ : ∃ m, n = m + 1 := ⟨n - 1, by omega⟩
      have hvalue : value? n d (indented k v ++
          ',' :: (indentedItems k (w :: ws) ++ (newLine j ++ ']' :: rest))) =
          some (v.canonical, ',' :: (indentedItems k (w :: ws) ++ (newLine j ++ ']' :: rest))) :=
        value?_indented v hv.1 (by omega) (by omega) (ends_comma _)
      have hmore : arrayItems? n d (indentedItems k (w :: ws) ++ (newLine j ++ ']' :: rest)) =
          some (canonicalItems (w :: ws), rest) :=
        arrayItems?_indented (w :: ws) (List.cons_ne_nil w ws) hv.2 (by omega) (by omega)
      have htext : indentedItems k (v :: w :: ws) ++ (newLine j ++ ']' :: rest) =
          newLine k ++ (indented k v ++
            ',' :: (indentedItems k (w :: ws) ++ (newLine j ++ ']' :: rest))) := by
        simp [indentedItems]
      rw [htext]
      exact arrayItems?_more ((value?_newLine n d k _).trans hvalue) hmore

theorem objectMembers?_indented (ms : List (String × Json)) (hne : ms ≠ []) {n d k j : Nat}
    {rest : List Char} {acc : Dict String Json}
    (hv : AdmitsMembers OnlyZero ms) (hd : depthOfMembers ms ≤ d)
    (hn : (indentedMembers k ms).length ≤ n) :
    objectMembers? n d (indentedMembers k ms ++ (newLine j ++ '}' :: rest)) acc =
      some (acc.insertAll (canonicalMembers ms), rest) := by
  cases ms with
  | nil => exact absurd rfl hne
  | cons m ms =>
    obtain ⟨name, v⟩ := m
    rw [depthOfMembers] at hd
    cases ms with
    | nil =>
      simp only [indentedMembers, newLine, List.length_append, List.length_cons] at hn
      obtain ⟨n, rfl⟩ : ∃ m, n = m + 1 := ⟨n - 1, by omega⟩
      have hvalue : value? n d (indented k v ++ (newLine j ++ '}' :: rest)) =
          some (v.canonical, newLine j ++ '}' :: rest) :=
        value?_indented v hv.1 (by omega) (by omega) (ends_newLine j _)
      have htext : indentedMembers k [(name, v)] ++ (newLine j ++ '}' :: rest) =
          newLine k ++ (quoted name ++
            ':' :: ' ' :: (indented k v ++ (newLine j ++ '}' :: rest))) := by
        simp [indentedMembers]
      rw [htext]
      exact objectMembers?_last hvalue
    | cons m ms =>
      simp only [indentedMembers, newLine, List.length_append, List.length_cons] at hn
      obtain ⟨n, rfl⟩ : ∃ m, n = m + 1 := ⟨n - 1, by omega⟩
      have hvalue : value? n d (indented k v ++
          ',' :: (indentedMembers k (m :: ms) ++ (newLine j ++ '}' :: rest))) =
          some (v.canonical,
            ',' :: (indentedMembers k (m :: ms) ++ (newLine j ++ '}' :: rest))) :=
        value?_indented v hv.1 (by omega) (by omega) (ends_comma _)
      have htext : indentedMembers k ((name, v) :: m :: ms) ++ (newLine j ++ '}' :: rest) =
          newLine k ++ (quoted name ++ ':' :: ' ' :: (indented k v ++
            ',' :: (indentedMembers k (m :: ms) ++ (newLine j ++ '}' :: rest)))) := by
        simp [indentedMembers]
      rw [htext, objectMembers?_more hvalue]
      exact objectMembers?_indented (m :: ms) (List.cons_ne_nil m ms) hv.2 (by omega) (by omega)

end

/-- Whole documents are read back, if they do not nest too deep for the reader. -/
theorem restores_ofText? : Restores OnlyZero 127 ofText? := by
  rintro v ⟨hv, hd⟩
  have htext : v.document.toList = indented 0 v ++ ['\n'] := by simp [document]
  have hvalue : value? (2 * (indented 0 v ++ ['\n']).length + 2) 127 (indented 0 v ++ ['\n']) =
      some (v.canonical, ['\n']) :=
    value?_indented v hv hd (by rw [List.length_append]; omega) (ends_newLine 0 [])
  simp only [ofText?, htext, hvalue]
  rfl

end OpticalTestbed.Json
