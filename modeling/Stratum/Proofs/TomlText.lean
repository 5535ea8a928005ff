import Stratum.Keyed
import Stratum.Proofs.TomlSpelling

/-!
# A document with one line for each key

A document that is a line for each of some keys, with a blank on either side of the equals sign, is
read line by line: each line puts its value under its key, and the keys that are still to come are
still free. So in the end every key has the value of its line.

> `Setting.exists_entry`: every text can be set under every key.
> `line?_append`: a line is read, whatever lines follow.
> `ofText?_content`: the document that the lines are read as.
-/

namespace Stratum.Toml

open Text

/-- A line that sets a key. -/
structure Setting where
  key : String
  /-- The text of the value, if it is one. -/
  text : Option String
  keyText : List Char
  valueText : List Char
  keySpelled : KeyText keyText key
  valueSpelled : ValueText valueText text

namespace Setting

/-- The key with the text of its value. -/
def entry (s : Setting) : String × Option String := (s.key, s.text)

/-- The line with its end. -/
def line (s : Setting) : List Char := s.keyText ++ ' ' :: '=' :: ' ' :: (s.valueText ++ ['\n'])

/-- All lines. -/
def content (ss : List Setting) : List Char := ss.flatMap line

theorem content_cons (s : Setting) (ss : List Setting) : content (s :: ss) = s.line ++ content ss :=
  List.flatMap_cons

/-- **Every text can be set** under every key. -/
theorem exists_entry (key text : String) : ∃ s : Setting, s.entry = (key, some text) := by
  obtain ⟨v, hv⟩ := exists_quoted key
  obtain ⟨w, hw⟩ := exists_quoted text
  exact ⟨⟨key, some text, v, w, .quoted hv, .text hw⟩, rfl⟩

end Setting

variable {c : Char} {r : List Char}

/-- Nothing is skipped in front of what is no space. -/
theorem skipSpace_cons (hc : isSpace c = false) (r : List Char) : skipSpace (c :: r) = c :: r := by
  unfold skipSpace
  rw [List.dropWhile_cons_of_neg (by rw [hc]; decide)]

theorem isSpace_eq_false (hspace : c ≠ ' ') (htab : c ≠ '\t') : isSpace c = false := by
  unfold isSpace
  rw [Bool.or_eq_false_iff, beq_eq_false_iff_ne, beq_eq_false_iff_ne]
  exact ⟨hspace, htab⟩

/-- The characters at which a line that sets a key may start. -/
theorem KeyText.exists_front {w : List Char} {k : String} (h : KeyText w k) :
    ∃ c t, w = c :: t ∧ isSpace c = false ∧ c ≠ '#' ∧ c ≠ '\n' ∧ c ≠ '[' ∧ c ≠ '\uFEFF' := by
  obtain ⟨c, t, rfl, hc⟩ := h.exists_cons
  refine ⟨c, t, rfl, ?_⟩
  rcases hc with hc | rfl | rfl
  · have hne := ne_of_isKeyChar hc
    exact ⟨isSpace_eq_false (hne ' ' (by decide)) (hne '\t' (by decide)), hne '#' (by decide),
      hne '\n' (by decide), hne '[' (by decide), hne '\uFEFF' (by decide)⟩
  · decide
  · decide

/-- A value does not start with a space. -/
theorem ValueText.exists_front {w : List Char} {o : Option String} (h : ValueText w o) :
    ∃ c t, w = c :: t ∧ isSpace c = false := by
  obtain ⟨c, t, rfl, hc⟩ := h.exists_cons
  refine ⟨c, t, rfl, ?_⟩
  rcases hc with rfl | rfl | hc
  · decide
  · decide
  · have hne := ne_of_startsScalar hc
    exact isSpace_eq_false (hne ' ' (by decide)) (hne '\t' (by decide))

/-! ## A line -/

/-- **A key is read** up to its equals sign. -/
theorem KeyText.key?_append {w : List Char} {k : String} (h : KeyText w k) (r : List Char) :
    key? (w ++ ' ' :: '=' :: r) = some ([k], '=' :: r) := by
  have hread := h.keyPart?_append ('=' :: r)
  have hmore : moreKeys? (' ' :: '=' :: r).length (' ' :: '=' :: r) = some ([], '=' :: r) := rfl
  obtain ⟨c, t, rfl, hspace, -⟩ := h.exists_front
  rw [List.cons_append] at hread ⊢
  unfold key?
  rw [skipSpace_cons hspace, hread]
  simp only [Option.bind_eq_bind, Option.bind_some, hmore]
  rw [if_pos (by decide), skipSpace_cons (by decide)]

/-- The sign and the space behind it are passed over. -/
theorem ValueText.afterEquals?_append {w : List Char} {o : Option String} (h : ValueText w o)
    (r : List Char) : afterEquals? ('=' :: ' ' :: (w ++ r)) = some (w ++ r) := by
  obtain ⟨c, t, rfl, hspace⟩ := h.exists_front
  show some (skipSpace (' ' :: (c :: t ++ r))) = _
  unfold skipSpace
  rw [List.dropWhile_cons_of_pos (by decide), List.cons_append]
  exact congrArg some (skipSpace_cons hspace _)

/-- A key that is free takes its value. -/
theorem addValue?_singleton {d : Document} {table : TablePath} {k : String}
    (hfree : d.place? table k = none) (text : Option String) :
    d.addValue? table [k] text = some (d.put table k (.value text)) := by
  show (if (false || (d.place? table k).isSome) = true then none
    else some (d.put table k (.value text))) = _
  rw [hfree]
  rfl

/-- **A line with an entry** puts it into the document. -/
theorem line?_of_entry {p : Progress} {k : String} {o : Option String} {s t u v : List Char}
    (hbracket : s.head? ≠ some '[') (hkey : key? s = some ([k], t))
    (hequals : afterEquals? t = some u)
    (hvalue : value? (2 * u.length) depthLimit u = some (o, '\n' :: v))
    (hfree : p.document.place? p.table k = none) :
    line? p s = some ({ p with document := p.document.put p.table k (.value o) }, v) := by
  rw [line?.eq_def]
  split
  next => exact absurd rfl hbracket
  next => exact absurd rfl hbracket
  next =>
    simp only [hkey, hequals, hvalue, addValue?_singleton hfree, Option.bind_eq_bind,
      Option.bind_some]
    rfl

namespace Setting

/-- A line is a key, an equals sign, a value and its end. -/
theorem line_append (s : Setting) (r : List Char) :
    s.line ++ r = s.keyText ++ ' ' :: '=' :: ' ' :: (s.valueText ++ '\n' :: r) := by
  unfold line
  simp only [List.append_assoc, List.cons_append, List.nil_append]

/-- It starts with its key: it is no comment, no header and not empty. -/
theorem exists_front (s : Setting) (r : List Char) :
    ∃ c t, s.line ++ r = c :: t ∧ isSpace c = false ∧ c ≠ '#' ∧ c ≠ '\n' ∧ c ≠ '[' ∧
      c ≠ '\uFEFF' := by
  obtain ⟨c, t, hfront, hc⟩ := s.keySpelled.exists_front
  rw [line_append, hfront]
  exact ⟨c, _, rfl, hc⟩

end Setting

/-- **A line is read**, whatever lines follow, if its key is still free. -/
theorem line?_append (s : Setting) {p : Progress} (hfree : p.document.place? p.table s.key = none)
    (r : List Char) :
    line? p (s.line ++ r) =
      some ({ p with document := p.document.put p.table s.key (.value s.text) }, r) := by
  obtain ⟨c, t, hfront, -, -, -, hbracket, -⟩ := s.exists_front r
  have hhead : (s.line ++ r).head? ≠ some '[' := by
    rw [hfront]
    exact fun heq => hbracket (Option.some.inj heq)
  refine line?_of_entry hhead ?_ (s.valueSpelled.afterEquals?_append ('\n' :: r))
    (s.valueSpelled.value?_append _ _ r) hfree
  rw [s.line_append]
  exact s.keySpelled.key?_append _

/-! ## All lines -/

/-- Where a line starts, there is nothing to be passed over. -/
theorem skipBetween?_append (s : Setting) (r : List Char) :
    skipBetween? (s.line ++ r) = some (s.line ++ r) := by
  obtain ⟨c, t, hfront, hspace, hcomment, hfeed, -, -⟩ := s.exists_front r
  have hskip : skipComment? (c :: t) = some (c :: t) := by
    unfold skipComment?
    split
    next heq => exact absurd (List.cons.inj heq).1 hcomment
    next => rfl
  rw [hfront]
  unfold skipBetween?
  rw [List.length_cons, skipLines?, skipSpace_cons hspace, hskip]
  simp only [Option.bind_eq_bind, Option.bind_some]
  split
  next heq => exact absurd (List.cons.inj heq).1 hfeed
  next => rfl

/-- The lines behind it go on from there. -/
theorem lines?_append (s : Setting) {p q : Progress} (hline : line? p (s.line ++ r) = some (q, r))
    (n : Nat) : lines? (n + 1) p (s.line ++ r) = lines? n q r := by
  obtain ⟨c, t, hfront, -⟩ := s.exists_front r
  rw [lines?, skipBetween?_append]
  rw [hfront] at hline ⊢
  simp only [Option.bind_eq_bind, Option.bind_some, hline]

/-- **The lines are read one by one**, if their keys are all different and none is taken: every key
then has the value of its line. -/
theorem lines?_content {ss : List Setting} (hkeys : (ss.map Setting.key).Nodup) {n : Nat}
    (hn : ss.length < n) (d : Document) (hfree : ∀ s ∈ ss, d.place? [] s.key = none) :
    ∃ d', lines? n ⟨d, []⟩ (Setting.content ss) = some d' ∧ ∀ k, d'.place? [] k =
      (((ss.map Setting.entry).lookup k).map Place.value).or (d.place? [] k) := by
  induction ss generalizing n d with
  | nil =>
    obtain ⟨n, rfl⟩ := Nat.exists_eq_add_of_le' hn
    exact ⟨d, rfl, fun k => rfl⟩
  | cons s ss ih =>
    obtain ⟨hs, hkeys⟩ := List.nodup_cons.1 hkeys
    obtain ⟨n, rfl⟩ := Nat.exists_eq_add_of_le' (Nat.one_le_of_lt hn)
    have hstep : line? ⟨d, []⟩ (s.line ++ Setting.content ss) = _ :=
      line?_append s (hfree s List.mem_cons_self) (Setting.content ss)
    -- The line takes its own key only, so those still to come are free behind it.
    have hnext : ∀ t ∈ ss, (d.put [] s.key (.value s.text)).place? [] t.key = none := by
      intro t ht
      have hne : t.key ≠ s.key := fun heq => hs (heq ▸ List.mem_map_of_mem ht)
      rw [Document.place?_put, if_neg fun h => hne h.2]
      exact hfree t (List.mem_cons_of_mem s ht)
    obtain ⟨d', hread, hplace⟩ := ih hkeys (Nat.lt_of_succ_lt_succ hn) _ hnext
    refine ⟨d', ?_, fun k => ?_⟩
    · rw [Setting.content_cons, lines?_append s hstep]
      exact hread
    · have hlookup : (s.entry :: ss.map Setting.entry).lookup k =
          if k = s.key then some s.text else (ss.map Setting.entry).lookup k :=
        Keyed.lookup_cons k s.entry _
      rw [hplace, Document.place?_put, List.map_cons, hlookup]
      by_cases hk : k = s.key
      -- No later line sets the key again.
      · have hnone : (ss.map Setting.entry).lookup k = none := by
          rw [List.lookup_eq_none_iff]
          intro e he
          obtain ⟨t, ht, rfl⟩ := List.mem_map.1 he
          exact bne_iff_ne.2 fun heq => hs (hk ▸ heq ▸ List.mem_map_of_mem ht)
        rw [hnone, if_pos ⟨rfl, hk⟩, if_pos hk]
        rfl
      · rw [if_neg fun h => hk h.2, if_neg hk]

/-- Without returns there is nothing to unify. -/
theorem unifyLineEnds_eq_self {s : List Char} (h : '\r' ∉ s) : unifyLineEnds s = s := by
  induction s with
  | nil => rfl
  | cons c s ih =>
    rw [List.mem_cons, not_or] at h
    rw [unifyLineEnds.eq_def]
    split
    next heq => exact absurd (List.cons.inj heq).1.symm h.1
    next heq =>
      obtain ⟨rfl, rfl⟩ := List.cons.inj heq
      rw [ih h.2]
    next heq => cases heq

/-- And settings have none. -/
theorem Setting.return_not_mem (ss : List Setting) : '\r' ∉ content ss := by
  intro hmem
  obtain ⟨s, -, hs⟩ := List.mem_flatMap.1 hmem
  unfold line at hs
  rcases List.mem_append.1 hs with hs | hs
  · exact s.keySpelled.return_not_mem hs
  · have hline : '\r' ∈ [' ', '=', ' '] ++ (s.valueText ++ ['\n']) := hs
    rw [List.mem_append, List.mem_append, List.mem_singleton] at hline
    rcases hline with hs | hs | hs
    · exact absurd hs (by decide)
    · exact s.valueSpelled.return_not_mem hs
    · exact absurd hs (by decide)

theorem Setting.length_le (ss : List Setting) : ss.length ≤ (content ss).length := by
  induction ss with
  | nil => exact Nat.le_refl 0
  | cons s ss ih =>
    obtain ⟨c, t, hfront, -⟩ := s.exists_front []
    have hline : 1 ≤ s.line.length := by
      rw [List.append_nil] at hfront
      rw [hfront, List.length_cons]
      omega
    rw [content_cons, List.length_cons, List.length_append]
    omega

/-- **A document of lines** has the value of its line under every key, and nothing under any other. -/
theorem ofText?_content {ss : List Setting} (hkeys : (ss.map Setting.key).Nodup) :
    ∃ d, ofText? (Setting.content ss) = some d ∧
      ∀ k, d.place? [] k = ((ss.map Setting.entry).lookup k).map Place.value := by
  have hmark : (Setting.content ss).head? ≠ some '\uFEFF' := by
    cases ss with
    | nil => nofun
    | cons s ss =>
      obtain ⟨c, t, hfront, -, -, -, -, hmark⟩ := s.exists_front (Setting.content ss)
      rw [Setting.content_cons, hfront]
      exact fun heq => hmark (Option.some.inj heq)
  obtain ⟨d, hread, hplace⟩ := lines?_content hkeys
    (Nat.lt_succ_of_le (Setting.length_le ss)) [] fun _ _ => rfl
  refine ⟨d, ?_, fun k => ?_⟩
  · unfold ofText?
    simp only [if_neg hmark, unifyLineEnds_eq_self (Setting.return_not_mem ss)]
    exact hread
  · rw [hplace, show Document.place? [] [] k = none from rfl, Option.or_none]

end Stratum.Toml
