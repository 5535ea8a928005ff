import Stratum.Proofs.FirstValues

/-!
# The numbers of a manifest

Four fields of a manifest are numbers. Each of them is the integer that the value in the header
denotes, however many digits it is written with; nothing wraps, and nothing is cut off at a limit. A
value that denotes no integer, or one that is too great for its field, is not passed over: there is
no manifest then.

> `reads_unsigned`, `reads_signed`: a field is read exactly from the texts that denote its value.
> `ofBytes_numbers`: which integer is in a field, and when there is a manifest at all.
-/

namespace Stratum

namespace Text.Numeral

variable {s : List Char}

/-- A text without a sign is the numeral of one number. -/
theorem Unsigned.unique {m n : Nat} (hm : Unsigned s m) (hn : Unsigned s n) : m = n :=
  Option.some.inj ((readUnsigned?_eq_some_iff.2 hm).symm.trans (readUnsigned?_eq_some_iff.2 hn))

/-- So is a text with one. -/
theorem Signed.unique {y z : Int} (hy : Signed s y) (hz : Signed s z) : y = z :=
  Option.some.inj ((readSigned?_eq_some_iff.2 hy).symm.trans (readSigned?_eq_some_iff.2 hz))

/-- A number of 64 bits is read from its own numerals only. -/
theorem readUInt64?_eq_some_iff {u : UInt64} : readUInt64? s = some u ↔ Unsigned s u.toNat := by
  rw [readUInt64?_eq, Option.bind_eq_some_iff]
  constructor
  · rintro ⟨n, hn, hfit⟩
    rw [fitUnsigned_eq_some_iff.1 hfit]
    exact readUnsigned?_eq_some_iff.1 hn
  · intro h
    exact ⟨_, readUnsigned?_eq_some_iff.2 h, fitUnsigned_eq_some_iff.2 rfl⟩

/-- And so is one with a sign. -/
theorem readInt64?_eq_some_iff {i : Int64} : readInt64? s = some i ↔ Signed s i.toInt := by
  rw [readInt64?_eq, Option.bind_eq_some_iff]
  constructor
  · rintro ⟨z, hz, hfit⟩
    rw [fitSigned_eq_some_iff.1 hfit]
    exact readSigned?_eq_some_iff.1 hz
  · intro h
    exact ⟨_, readSigned?_eq_some_iff.2 h, fitSigned_eq_some_iff.2 rfl⟩

end Text.Numeral

namespace Manifest

open Text Text.Numeral

/-! ## Integers and the texts that denote them -/

/-- The integer that a value denotes under a numeric key, blanks around it aside: digits, any number
of them, with a plus sign or none in front, and under `T` also with a minus. -/
def Denotes (key : Char) (value : String) (z : Int) : Prop :=
  if key = 'T' then Signed (trim value.toList) z
  else ∃ n : Nat, Unsigned (trim value.toList) n ∧ z = n

/-- The integers that there is room for under a numeric key. -/
def Fits (key : Char) (z : Int) : Prop :=
  if key = 'T' then -2 ^ 63 ≤ z ∧ z ≤ 2 ^ 63 - 1 else 0 ≤ z ∧ z ≤ 2 ^ 64 - 1

instance (key : Char) (z : Int) : Decidable (Fits key z) :=
  inferInstanceAs (Decidable (if key = 'T' then _ else _))

/-- The value of a field denotes at most one integer. -/
theorem Denotes.unique {key : Char} {value : String} {y z : Int} (hy : Denotes key value y)
    (hz : Denotes key value z) : y = z := by
  unfold Denotes at hy hz
  split at hy
  next hkey =>
    rw [if_pos hkey] at hz
    exact hy.unique hz
  next hkey =>
    rw [if_neg hkey] at hz
    obtain ⟨m, hm, rfl⟩ := hy
    obtain ⟨n, hn, rfl⟩ := hz
    rw [hm.unique hn]

/-- The number in the field of a numeric key, as an integer. -/
def number? (m : Manifest) (key : Char) : Option Int :=
  if key = 'B' then m.rootCatalogSize.map fun n => (n.toNat : Int)
  else if key = 'T' then m.lastModified.map Int64.toInt
  else if key = 'D' then m.ttl.map fun n => (n.toNat : Int)
  else if key = 'S' then m.revision.map fun n => (n.toNat : Int)
  else none

/-! ## One field -/

/-- A reader that takes exactly the values which denote integers that fit, for these integers. -/
def Reads {α : Type} (reader : List Char → Option α) (toInt : α → Int) (key : Char) : Prop :=
  ∀ value z, (∃ a, reader (trim value.toList) = some a ∧ toInt a = z) ↔
    Denotes key value z ∧ Fits key z

/-- The readers of numbers without a sign read what the text denotes, where it fits. -/
theorem reads_unsigned {key : Char} (hkey : key ≠ 'T') :
    Reads readUInt64? (fun n => (n.toNat : Int)) key := by
  intro value z
  unfold Denotes Fits
  rw [if_neg hkey, if_neg hkey]
  constructor
  · intro h
    obtain ⟨u, hu, rfl⟩ := h
    have hlt : u.toNat < 2 ^ 64 := u.toNat_lt
    refine ⟨⟨_, readUInt64?_eq_some_iff.1 hu, rfl⟩, ?_⟩
    show (0 : Int) ≤ u.toNat ∧ (u.toNat : Int) ≤ 2 ^ 64 - 1
    omega
  · intro h
    obtain ⟨⟨n, hn, rfl⟩, -, hle⟩ := h
    have hexact : (UInt64.ofNat n).toNat = n := UInt64.toNat_ofNat_of_lt' (by
      show n < 2 ^ 64
      omega)
    refine ⟨UInt64.ofNat n, readUInt64?_eq_some_iff.2 ?_, congrArg Nat.cast hexact⟩
    rwa [hexact]

/-- So does the reader of the time, which may have a sign. -/
theorem reads_signed : Reads readInt64? Int64.toInt 'T' := by
  intro value z
  unfold Denotes Fits
  rw [if_pos rfl, if_pos rfl]
  constructor
  · intro h
    obtain ⟨i, hi, rfl⟩ := h
    have hlow := i.le_toInt
    have hhigh := i.toInt_lt
    exact ⟨readInt64?_eq_some_iff.1 hi, by omega, by omega⟩
  · intro h
    obtain ⟨hz, hlow, hhigh⟩ := h
    have hexact : (Int64.ofInt z).toInt = z :=
      Int64.toInt_ofInt_of_le (by simpa using hlow) (by omega)
    refine ⟨Int64.ofInt z, readInt64?_eq_some_iff.2 ?_, hexact⟩
    rwa [hexact]

/-- What a field holds is what the lines say under its key: nothing if there is no such line, and else
the one integer that the value of the first denotes. -/
def Holds (lines : List (List Char)) (key : Char) (field : Option Int) : Prop :=
  (firstValue? key lines = none → field = none) ∧
    ∀ value, firstValue? key lines = some value →
      ∃ z, field = some z ∧ Fits key z ∧ ∀ y, Denotes key value y ↔ y = z

/-- A field that was read holds the integer that its first line denotes. -/
theorem holds_of_number {α : Type} {reader : List Char → Option α} {toInt : α → Int} {key : Char}
    (hreads : Reads reader toInt key) {lines : List (List Char)} {field : Option α}
    (h : number reader (fields lines) key = .ok field) : Holds lines key (field.map toInt) := by
  unfold number at h
  rw [get?_fields] at h
  cases hvalue : firstValue? key lines with
  | none =>
    rw [hvalue] at h
    obtain rfl := Except.ok.inj h
    exact ⟨fun _ => rfl, fun value hsome => absurd (hvalue.symm.trans hsome) nofun⟩
  | some value =>
    rw [hvalue] at h
    cases hread : reader (trim value.toList) with
    | none => simp only [hread, reduceCtorEq] at h
    | some a =>
      simp only [hread, Except.ok.injEq] at h
      subst h
      obtain ⟨hdenotes, hfits⟩ := (hreads value (toInt a)).1 ⟨a, hread, rfl⟩
      refine ⟨fun hnone => absurd (hvalue.symm.trans hnone) nofun, fun value' hsome => ?_⟩
      obtain rfl := Option.some.inj (hvalue.symm.trans hsome)
      refine ⟨toInt a, rfl, hfits, fun y => ?_⟩
      exact ⟨fun hy => hy.unique hdenotes, fun hy => hy ▸ hdenotes⟩

/-- A value is accepted if it denotes an integer that fits. -/
theorem isNumeral_iff {key : Char} {value : String} :
    IsNumeral key value ↔ ∃ z, Denotes key value z ∧ Fits key z := by
  unfold IsNumeral Denotes Fits
  split
  next =>
    refine exists_congr fun z => and_congr_right fun _ => ?_
    omega
  next =>
    constructor
    · intro h
      obtain ⟨n, hn, hlt⟩ := h
      exact ⟨n, ⟨n, hn, rfl⟩, by omega, by omega⟩
    · intro h
      obtain ⟨_, ⟨n, hn, rfl⟩, -, hle⟩ := h
      exact ⟨n, hn, by omega⟩

/-! ## All of them -/

/-- Every number of a manifest is the one that its first line denotes. -/
theorem holds_of_ofBytes {content : Bytes} {m : Manifest} (h : ofBytes content = .ok m) {key : Char}
    (hkey : key ∈ numericKeys) : Holds (header content) key (m.number? key) := by
  have hsaid : SaidBy (fields (header content)) m := ofFields_eq_ok_iff.1 h
  simp only [numericKeys, List.mem_cons, List.not_mem_nil, or_false] at hkey
  rcases hkey with rfl | rfl | rfl | rfl
  · exact holds_of_number (reads_unsigned (by decide)) hsaid.rootCatalogSize
  · exact holds_of_number reads_signed hsaid.lastModified
  · exact holds_of_number (reads_unsigned (by decide)) hsaid.ttl
  · exact holds_of_number (reads_unsigned (by decide)) hsaid.revision

/-- Of a list of keys one is at fault, unless all their values are numbers. -/
theorem exists_refused_iff {lines : List (List Char)} {keys : List Char} :
    (∃ e, Refused lines keys e) ↔
      ∃ key ∈ keys, ∃ value, firstValue? key lines = some value ∧ ¬IsNumeral key value := by
  induction keys with
  | nil => exact iff_of_false (fun ⟨_, h⟩ => not_refused_nil h) (by simp)
  | cons key keys ih =>
    constructor
    · intro h
      obtain ⟨e, h⟩ := h
      cases h with
      | here hvalue hbad => exact ⟨key, List.mem_cons_self, _, hvalue, hbad⟩
      | later _ h =>
        obtain ⟨key', hkey', hfault⟩ := ih.1 ⟨e, h⟩
        exact ⟨key', List.mem_cons_of_mem key hkey', hfault⟩
    · intro h
      obtain ⟨key', hkey', value, hvalue, hbad⟩ := h
      by_cases hhere : ∀ value, firstValue? key lines = some value → IsNumeral key value
      · rcases List.mem_cons.1 hkey' with rfl | hkey'
        · exact absurd (hhere value hvalue) hbad
        · obtain ⟨e, he⟩ := ih.2 ⟨key', hkey', value, hvalue, hbad⟩
          exact ⟨e, .later hhere he⟩
      · push Not at hhere
        obtain ⟨value', hvalue', hbad'⟩ := hhere
        exact ⟨_, .here hvalue' hbad'⟩

theorem exists_ofBytes_eq_error_iff {content : Bytes} :
    (∃ e, ofBytes content = .error e) ↔
      (∀ name, firstValue? 'N' (header content) = some name → name = "") ∨
        ∃ key ∈ numericKeys, ∃ value, firstValue? key (header content) = some value ∧
          ∀ z, Denotes key value z → ¬Fits key z := by
  have hfaulty : (∃ e, ofBytes content = .error e) ↔ ∃ e, Faulty (header content) e :=
    exists_congr fun e => ofFields_eq_error_iff
  have hrefused : (∃ e, Refused (header content) numericKeys e) ↔
      ∃ key ∈ numericKeys, ∃ value, firstValue? key (header content) = some value ∧
        ∀ z, Denotes key value z → ¬Fits key z := by
    rw [exists_refused_iff]
    simp only [isNumeral_iff, not_exists, not_and]
  rw [hfaulty, ← hrefused]
  constructor
  · intro h
    obtain ⟨e, h⟩ := h
    cases h with
    | noName hempty => exact Or.inl hempty
    | refused _ h => exact Or.inr ⟨e, h⟩
  · intro h
    by_cases hempty : ∀ name, firstValue? 'N' (header content) = some name → name = ""
    · exact ⟨_, .noName hempty⟩
    · obtain ⟨e, h⟩ := h.resolve_left hempty
      push Not at hempty
      exact ⟨e, .refused hempty h⟩

/-- **The numbers of a manifest are exact.** The field of a numeric key is empty if the header has no
line with this key; else it is the integer that the value of the first such line denotes, and this is
one that there is room for. If a value denotes no integer, or one that there is no room for, the
manifest is refused; and it is refused for nothing else but a missing name. -/
theorem ofBytes_numbers (content : Bytes) :
    (∀ m, ofBytes content = .ok m → ∀ key ∈ numericKeys,
      (firstValue? key (header content) = none → m.number? key = none) ∧
        ∀ value, firstValue? key (header content) = some value →
          ∃ z, m.number? key = some z ∧ Fits key z ∧ ∀ y, Denotes key value y ↔ y = z) ∧
    ((∃ e, (ofBytes content).mapError Failure.badManifest = .error (.badManifest e)) ↔
      (∀ name, firstValue? 'N' (header content) = some name → name = "") ∨
        ∃ key ∈ numericKeys, ∃ value, firstValue? key (header content) = some value ∧
          ∀ z, Denotes key value z → ¬Fits key z) := by
  refine ⟨?_, ?_⟩
  · intro m hm key hkey
    exact holds_of_ofBytes hm hkey
  · rw [← exists_ofBytes_eq_error_iff]
    refine exists_congr fun e => ?_
    rw [Outcome.mapError_eq_error_iff]
    constructor
    · intro h
      obtain ⟨e', he', heq⟩ := h
      rwa [← Failure.badManifest.inj heq]
    · intro h
      exact ⟨e, h, rfl⟩

/-- A header whose numbers are as great and as small as they can be. -/
def extremes : Bytes :=
  "T\t-9223372036854775808 \nNx.org\nB+0018446744073709551615\r\nT7\n--\nD5".utf8

/-- And one with a number that is too great by one. -/
def overfull : Bytes := "Nx.org\nB18446744073709551616\n".utf8

theorem ofBytes_numbers_extremes :
    (∃ m, ofBytes extremes = .ok m ∧ m.number? 'B' = some (2 ^ 64 - 1) ∧
      m.number? 'T' = some (-2 ^ 63) ∧ m.number? 'D' = none) ∧
    ∃ e, (ofBytes overfull).mapError Failure.badManifest = .error (.badManifest e) := by
  have hdigits : ∀ ds : List Char, ds ≠ [] → ds.all Char.isDigit = true → IsDigits ds :=
    fun _ hne hall => ⟨hne, List.all_eq_true.1 hall⟩
  refine ⟨?_, ?_⟩
  · obtain ⟨m, hm⟩ : ∃ m, ofBytes extremes = .ok m := by
      have hok : (ofBytes extremes).isOk = true := by decide +kernel
      cases hm : ofBytes extremes with
      | error e =>
        rw [hm] at hok
        cases hok
      | ok m => exact ⟨m, rfl⟩
    obtain ⟨hnumbers, -⟩ := ofBytes_numbers extremes
    obtain ⟨-, hsize⟩ := hnumbers m hm 'B' (by decide)
    obtain ⟨-, htime⟩ := hnumbers m hm 'T' (by decide)
    obtain ⟨httl, -⟩ := hnumbers m hm 'D' (by decide)
    obtain ⟨z, hz, -, hz'⟩ := hsize "+0018446744073709551615" (by decide +kernel)
    obtain ⟨t, ht, -, ht'⟩ := htime "\t-9223372036854775808 " (by decide +kernel)
    have hgreatest : Denotes 'B' "+0018446744073709551615" (2 ^ 64 - 1) :=
      ⟨_, .plus (hdigits "0018446744073709551615".toList (by decide) (by decide)), by decide⟩
    have hleast : Denotes 'T' "\t-9223372036854775808 " (-2 ^ 63) :=
      Signed.minus (hdigits "9223372036854775808".toList (by decide) (by decide))
    refine ⟨m, hm, ?_, ?_, httl (by decide +kernel)⟩
    · rw [hz, (hz' _).1 hgreatest]
    · rw [ht, (ht' _).1 hleast]
  · refine (ofBytes_numbers overfull).2.2 (Or.inr ⟨'B', by decide, "18446744073709551616", ?_, ?_⟩)
    · decide +kernel
    · intro z hz
      have hdenotes : Denotes 'B' "18446744073709551616" (2 ^ 64) :=
        ⟨_, .digits (hdigits "18446744073709551616".toList (by decide) (by decide)), by decide⟩
      rw [hz.unique hdenotes]
      decide

end Manifest

end Stratum
