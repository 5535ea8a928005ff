import Mathlib.Data.List.TakeWhile
import Stratum.Proofs.Encoded

/-!
# The server of a URL

What stands between the double slash of a URL and its path is user name, password, host and TCP
port. It is written so that reading it again finds the same ones, as `IsWritten` says of each of
them. Of the host only the text is the same for certain: it is looked up anew.

> `isWritten_of_takeAuthority`: what has been read is written so.
> `IsWritten.takeAuthority_eq`: what is written so is read back.
-/

namespace Stratum

open Text

/-! ## Hosts -/

namespace Url

/-- A text that is taken for the host, up to a colon or the end of the authority. -/
structure IsHostText (t : List Char) : Prop where
  ne_nil : t ≠ []
  plain : ∀ c ∈ t, 0x20 < c.toNat ∧ endsAuthority true c = false ∧ c ≠ '@'
  length : ∀ r, hostLength true false (t ++ r) = t.length + hostLength true false r

/-- Outside of brackets a host goes on to the first colon or the end of the authority. -/
theorem hostLength_of_outside {t : List Char}
    (h : ∀ c ∈ t, endsAuthority true c = false ∧ c ≠ ':' ∧ c ≠ '[') (r : List Char) :
    hostLength true false (t ++ r) = t.length + hostLength true false r := by
  induction t with
  | nil => simp
  | cons c t ih =>
    obtain ⟨hends, hcolon, hopen⟩ := h c List.mem_cons_self
    have ht := ih fun d hd => h d (List.mem_cons_of_mem c hd)
    rw [List.cons_append, hostLength, hends, beq_false_of_ne hcolon, beq_false_of_ne hopen]
    simp only [Bool.false_and, Bool.or_false, Bool.false_eq_true, if_false, ite_self, ht,
      List.length_cons]
    omega

/-- Inside of brackets it goes on to the closing one, over any colons. -/
theorem hostLength_of_inside {t : List Char}
    (h : ∀ c ∈ t, endsAuthority true c = false ∧ c ≠ ']') (r : List Char) :
    hostLength true true (t ++ ']' :: r) = t.length + 1 + hostLength true false r := by
  induction t with
  | nil =>
    rw [List.nil_append, hostLength]
    have hends : endsAuthority true ']' = false := by decide
    simp [hends, Nat.add_comm]
  | cons c t ih =>
    obtain ⟨hends, hclose⟩ := h c List.mem_cons_self
    have ht := ih fun d hd => h d (List.mem_cons_of_mem c hd)
    rw [List.cons_append, hostLength, hends, beq_false_of_ne hclose]
    simp only [Bool.not_true, Bool.and_false, Bool.or_false, Bool.false_eq_true, if_false,
      ite_self, ht, List.length_cons]
    omega

end Url

namespace Host

/-- What a domain may contain ends neither the host nor the authority. -/
theorem of_not_isDenied {c : Char} (h : Domain.isDenied c = false) :
    0x20 < c.toNat ∧ Url.endsAuthority true c = false ∧ c ≠ '@' ∧ c ≠ ':' ∧ c ≠ '[' := by
  unfold Domain.isDenied at h
  simp only [Bool.or_eq_false_iff, decide_eq_false_iff_not, List.contains_eq_mem, List.mem_cons,
    List.not_mem_nil, or_false, not_or] at h
  obtain ⟨⟨hblank, -⟩, -, hhash, hslash, hcolon, -, -, hquestion, hat, hopen, hback, -⟩ := h
  refine ⟨by omega, ?_, hat, hcolon, hopen⟩
  unfold Url.endsAuthority UrlPath.isSlash
  simp [hhash, hslash, hquestion, hback]

/-- So a text of such characters is the text of a host. -/
theorem isHostText_of_allowed {t : List Char} (hne : t ≠ [])
    (h : ∀ c ∈ t, Domain.isDenied c = false) : Url.IsHostText t := by
  refine ⟨hne, ?_, Url.hostLength_of_outside ?_⟩
  · intro c hc
    obtain ⟨hblank, hends, hat, -⟩ := of_not_isDenied (h c hc)
    exact ⟨hblank, hends, hat⟩
  · intro c hc
    obtain ⟨-, hends, -, hcolon, hopen⟩ := of_not_isDenied (h c hc)
    exact ⟨hends, hcolon, hopen⟩

theorem not_isDenied_of_isDigit {c : Char} (h : c.isDigit = true) : Domain.isDenied c = false := by
  have hranges := Quoted.ranges_of_isAlphanum (Bool.or_eq_true_iff.2 (Or.inr h))
  exact Url.forall_ascii (P := fun c => c.isDigit = true → Domain.isDenied c = false)
    (by decide +kernel) (by omega) h

/-- An address of four numbers is, too: it has digits and dots only. -/
theorem isHostText_ipv4Text (n : Nat) : Url.IsHostText (Address.ipv4Text n) := by
  refine isHostText_of_allowed ?_ ?_
  · unfold Address.ipv4Text
    rw [List.map_cons, List.map_cons, List.intercalate_cons_cons]
    simp
  · intro c hc
    rcases mem_intercalate hc with rfl | ⟨piece, hpiece, hc⟩
    · decide
    · obtain ⟨k, -, rfl⟩ := List.mem_map.1 hpiece
      exact not_isDenied_of_isDigit (List.all_eq_true.1 (Numeral.all_isDigit_digits _) c hc)

/-- A hexadecimal number has hexadecimal digits. -/
theorem of_mem_toDigits_sixteen {n : Nat} {c : Char} (h : c ∈ Nat.toDigits 16 n) :
    ∃ d < 16, c = Nat.digitChar d := by
  induction n using Nat.strongRecOn with
  | ind n ih =>
    rcases Nat.lt_or_ge n 16 with hn | hn
    · rw [Nat.toDigits_of_lt_base hn] at h
      exact ⟨n, hn, List.mem_singleton.1 h⟩
    · rw [Nat.toDigits_of_base_le (by decide) hn] at h
      rcases List.mem_append.1 h with h | h
      · exact ih (n / 16) (Nat.div_lt_self (by omega) (by decide)) h
      · exact ⟨n % 16, Nat.mod_lt n (by decide), List.mem_singleton.1 h⟩

/-- Characters between the brackets of an IPv6 address. -/
def IsGroupChar (c : Char) : Prop := c = ':' ∨ ∃ d < 16, c = Nat.digitChar d

/-- What an address in brackets has in it does not close them. -/
theorem IsGroupChar.plain {c : Char} (h : IsGroupChar c) :
    0x20 < c.toNat ∧ Url.endsAuthority true c = false ∧ c ≠ '@' ∧ c ≠ ']' := by
  rcases h with rfl | ⟨d, hd, rfl⟩
  · decide
  · have hall : ∀ d < 16, 0x20 < (Nat.digitChar d).toNat ∧
        Url.endsAuthority true (Nat.digitChar d) = false ∧ Nat.digitChar d ≠ '@' ∧
        Nat.digitChar d ≠ ']' := by decide +kernel
    exact hall d hd

theorem isGroupChar_of_mem_groupsText {gs : List Nat} {c : Char}
    (h : c ∈ Address.groupsText gs) : IsGroupChar c := by
  rcases mem_intercalate h with h | ⟨piece, hpiece, h⟩
  · exact Or.inl h
  · obtain ⟨g, -, rfl⟩ := List.mem_map.1 hpiece
    exact Or.inr (of_mem_toDigits_sixteen h)

/-- An address of eight groups stands in brackets. -/
theorem ipv6Text_eq (gs : List Nat) :
    ∃ body, Address.ipv6Text gs = '[' :: body ++ [']'] ∧ ∀ c ∈ body, IsGroupChar c := by
  unfold Address.ipv6Text
  dsimp only
  refine ⟨_, rfl, fun c hc => ?_⟩
  split at hc
  · exact isGroupChar_of_mem_groupsText hc
  · rcases List.mem_append.1 hc with hc | hc
    · rcases List.mem_append.1 hc with hc | hc
      · exact isGroupChar_of_mem_groupsText hc
      · have hcolon : [':', ':'].all (· == ':') = true := by decide
        exact Or.inl (beq_iff_eq.1 (List.all_eq_true.1 hcolon c hc))
    · exact isGroupChar_of_mem_groupsText hc

/-- And so it is the text of a host. -/
theorem isHostText_ipv6Text (gs : List Nat) : Url.IsHostText (Address.ipv6Text gs) := by
  obtain ⟨body, htext, hbody⟩ := ipv6Text_eq gs
  rw [htext]
  refine ⟨?_, ?_, ?_⟩
  · exact List.cons_ne_nil _ _
  · intro c hc
    have hopen : 0x20 < '['.toNat ∧ Url.endsAuthority true '[' = false ∧ '[' ≠ '@' := by decide
    have hclose : 0x20 < ']'.toNat ∧ Url.endsAuthority true ']' = false ∧ ']' ≠ '@' := by decide
    rcases List.mem_append.1 hc with hc | hc
    · rcases List.mem_cons.1 hc with rfl | hc
      · exact hopen
      · obtain ⟨hblank, hends, hat, -⟩ := (hbody c hc).plain
        exact ⟨hblank, hends, hat⟩
    · exact List.mem_singleton.1 hc ▸ hclose
  · intro r
    have hinside : ∀ c ∈ body, Url.endsAuthority true c = false ∧ c ≠ ']' := by
      intro c hc
      obtain ⟨-, hends, -, hclose⟩ := (hbody c hc).plain
      exact ⟨hends, hclose⟩
    -- Between the brackets colons do not count.
    have hfront : Url.hostLength true false ('[' :: (body ++ ']' :: r)) =
        Url.hostLength true true (body ++ ']' :: r) + 1 := rfl
    rw [List.append_assoc, List.cons_append, List.singleton_append, hfront,
      Url.hostLength_of_inside hinside]
    simp only [List.cons_append, List.length_cons, List.length_append, List.length_nil]
    omega

/-- **Every host is written in this way.** -/
theorem isHostText_of_ofSpecial {s : List Char} {h : Host} (hs : ofSpecial s = .ok h) :
    Url.IsHostText h.text := by
  unfold ofSpecial at hs
  split at hs
  next =>
    obtain ⟨gs, -, rfl⟩ := Outcome.map_eq_ok_iff.1 hs
    exact isHostText_ipv6Text gs
  next =>
    split at hs
    next => cases hs
    next name hname =>
      split at hs
      next => cases hs
      next hne =>
        split at hs
        next =>
          obtain ⟨n, -, rfl⟩ := Outcome.map_eq_ok_iff.1 hs
          exact isHostText_ipv4Text n
        next =>
          cases hs
          unfold Domain.toAscii? at hname
          have hdenied := (Option.filter_eq_some_iff.1 hname).2
          refine isHostText_of_allowed ?_ ?_
          · rintro rfl
            exact hne rfl
          · show ∀ c ∈ name, Domain.isDenied c = false
            simpa using hdenied

end Host

/-! ## Authorities -/

/-- An authority that is read as it is written. -/
structure Authority.IsWritten (scheme : List Char) (a : Authority) : Prop where
  username : ∀ c ∈ a.username, Percent.userInfo c = false
  password : ∀ c ∈ a.password, Percent.userInfo c = false
  host : Url.IsHostText a.host.text
  portNo : ∀ n, a.portNo = some n → n ≤ 65535 ∧ Url.usualPort? scheme ≠ some n

namespace Url

variable {scheme : List Char}

/-- A special scheme has no URL without a host. -/
theorem takeAuthority_special (special : isSpecial scheme = true) (s : List Char) :
    takeAuthority scheme s = (takeUser true s >>= fun (username, password, s) =>
      let name := s.take (hostLength true false s)
      if name.isEmpty then .error .emptyHost
      else Host.ofSpecial name >>= fun host =>
        (takePort scheme (s.drop name.length)).map fun (portNo, rest) =>
          ({ username, password, host, portNo }, rest)) := by
  unfold takeAuthority
  rw [special]
  refine bind_congr fun user => ?_
  obtain ⟨username, password, s⟩ := user
  simp only [Bool.true_or, if_true]
  cases (s.take (hostLength true false s)).isEmpty with
  | true => rfl
  | false =>
    refine bind_congr fun host => ?_
    cases takePort scheme (s.drop (s.take (hostLength true false s)).length) <;> rfl

/-- A name and a password are kept in their encoded form, in which nothing is left to encode. -/
theorem plain_of_takeUser {special : Bool} {s username password rest : List Char}
    (h : takeUser special s = .ok (username, password, rest)) :
    (∀ c ∈ username, Percent.userInfo c = false) ∧ ∀ c ∈ password, Percent.userInfo c = false := by
  unfold takeUser at h
  split at h
  next =>
    cases h
    refine ⟨?_, ?_⟩
    · intro c hc
      cases hc
    · intro c hc
      cases hc
  next =>
    split at h
    next => cases h
    next =>
      cases h
      exact ⟨Percent.keepsBytes_userInfo.plain_encode _, Percent.keepsBytes_userInfo.plain_encode _⟩

/-- A port that is kept fits into sixteen bits and is not the usual one. -/
theorem of_takePort {s rest : List Char} {portNo : Option Nat}
    (h : takePort scheme s = .ok (portNo, rest)) :
    ∀ n, portNo = some n → n ≤ 65535 ∧ usualPort? scheme ≠ some n := by
  intro n hn
  unfold takePort at h
  split at h
  next r =>
    dsimp only at h
    split at h
    next => cases h
    next hgood =>
      obtain ⟨hportNo, -⟩ := Prod.mk.inj (Except.ok.inj h)
      split at hportNo
      next =>
        rw [hn] at hportNo
        cases hportNo
      next husual =>
        rw [hn] at hportNo
        obtain rfl := Option.some.inj hportNo
        rw [Bool.or_eq_true, not_or, decide_eq_true_eq] at hgood
        rw [Bool.or_eq_true, not_or, beq_iff_eq] at husual
        exact ⟨Nat.le_of_not_lt hgood.1, husual.2⟩
  next =>
    cases h
    cases hn

/-- **What has been read is written so that it is read back.** -/
theorem isWritten_of_takeAuthority (special : isSpecial scheme = true) {s rest : List Char}
    {a : Authority} (h : takeAuthority scheme s = .ok (a, rest)) : a.IsWritten scheme := by
  rw [takeAuthority_special special] at h
  obtain ⟨⟨username, password, s⟩, huser, h⟩ := Outcome.bind_eq_ok_iff.1 h
  dsimp only at h
  split at h
  next => cases h
  next =>
    obtain ⟨host, hhost, h⟩ := Outcome.bind_eq_ok_iff.1 h
    obtain ⟨⟨portNo, rest'⟩, hportNo, h⟩ := Outcome.map_eq_ok_iff.1 h
    cases h
    obtain ⟨husername, hpassword⟩ := plain_of_takeUser huser
    exact {
      username := husername
      password := hpassword
      host := Host.isHostText_of_ofSpecial hhost
      portNo := of_takePort hportNo }

/-! ## Reading back -/

/-- What stands before the `@` of an authority. -/
def infoText (a : Authority) : List Char :=
  if a.password.isEmpty then a.username else a.username ++ ':' :: a.password

/-- There is nothing in front of the host, or it ends with an at sign. -/
theorem userText_eq (a : Authority) :
    (a.username = [] ∧ a.password = [] ∧ userText a = []) ∨
      (infoText a ≠ [] ∧ userText a = infoText a ++ ['@']) := by
  unfold userText infoText
  cases hpassword : a.password with
  | nil =>
    cases husername : a.username with
    | nil => exact Or.inl ⟨rfl, rfl, rfl⟩
    | cons c r => exact Or.inr ⟨List.cons_ne_nil c r, rfl⟩
  | cons d q =>
    refine Or.inr ⟨?_, ?_⟩
    · simp
    · simp

/-- What can follow an authority: nothing, or a character that ends it. -/
def FollowsAuthority (r : List Char) : Prop := ∀ c ∈ r.head?, endsAuthority true c = true

theorem followsAuthority_nil : FollowsAuthority [] := nofun

/-- A path may follow an authority. -/
theorem followsAuthority_slash (r : List Char) : FollowsAuthority ('/' :: r) := by
  intro c hc
  obtain rfl := Option.some.inj hc
  decide

/-- What ends an authority belongs neither to a host nor to the number of a TCP port. -/
theorem of_endsAuthority {c : Char} (h : endsAuthority true c = true) :
    c.isDigit = false ∧ c ≠ ':' := by
  unfold endsAuthority UrlPath.isSlash at h
  simp only [Bool.true_and, Bool.or_eq_true, beq_iff_eq] at h
  rcases h with ((rfl | rfl) | rfl) | rfl
  · decide
  · decide
  · decide
  · decide

section ReadBack

variable {info t r : List Char} (hr : FollowsAuthority r)
variable (hinfo : ∀ c ∈ info, endsAuthority true c = false)
variable (ht : ∀ c ∈ t, endsAuthority true c = false ∧ c ≠ '@')

include hr in
/-- The text of an authority goes on to what may follow it. -/
theorem takeWhile_authority {t : List Char} (ht : ∀ c ∈ t, endsAuthority true c = false) :
    (t ++ r).takeWhile (!endsAuthority true ·) = t := by
  rw [List.takeWhile_append_of_pos fun c hc => by rw [ht c hc]; rfl]
  cases r with
  | nil => exact List.append_nil t
  | cons c r =>
    rw [List.takeWhile_cons_of_neg (by rw [hr c rfl]; decide), List.append_nil]

include hr ht in
/-- Without an at sign there is no user. -/
theorem splitUser?_eq_none : splitUser? true (t ++ r) = none := by
  unfold splitUser?
  rw [takeWhile_authority hr fun c hc => (ht c hc).1]
  dsimp only
  have hnone : t.reverse.dropWhile (· != '@') = [] := by
    rw [List.dropWhile_eq_nil_iff]
    intro c hc
    exact bne_iff_ne.2 (ht c (List.mem_reverse.1 hc)).2
  rw [hnone]

include hr hinfo ht in
/-- With one behind it, the information about the user is what stands in front. -/
theorem splitUser?_eq_some :
    splitUser? true (info ++ '@' :: (t ++ r)) = some (info, t ++ r) := by
  have hregion : ∀ c ∈ info ++ '@' :: t, endsAuthority true c = false := by
    intro c hc
    rcases List.mem_append.1 hc with hc | hc
    · exact hinfo c hc
    · rcases List.mem_cons.1 hc with rfl | hc
      · decide
      · exact (ht c hc).1
  have hsplit : info ++ '@' :: (t ++ r) = (info ++ '@' :: t) ++ r := by simp
  unfold splitUser?
  rw [hsplit, takeWhile_authority hr hregion]
  -- The last `@` is the one before the host.
  have hlast : (info ++ '@' :: t).reverse.dropWhile (· != '@') = '@' :: info.reverse := by
    rw [List.reverse_append, List.reverse_cons, List.append_assoc,
      List.dropWhile_append_of_pos fun c hc => bne_iff_ne.2 (ht c (List.mem_reverse.1 hc)).2]
    exact List.dropWhile_cons_of_neg (by decide)
  dsimp only
  rw [hlast]
  simp

end ReadBack

end Url

namespace Authority.IsWritten

open Url

variable {scheme : List Char} {a : Authority} (h : a.IsWritten scheme)

include h

/-- Nothing in an authority ends it. -/
theorem plain_infoText :
    ∀ c ∈ infoText a, 0x20 < c.toNat ∧ endsAuthority true c = false ∧ c ≠ '@' := by
  intro c hc
  have hinfo (hc : Percent.userInfo c = false) :
      0x20 < c.toNat ∧ endsAuthority true c = false ∧ c ≠ '@' := by
    obtain ⟨hblank, hends, -, hat⟩ := Percent.of_not_userInfo hc
    exact ⟨hblank, hends, hat⟩
  unfold infoText at hc
  split at hc
  · exact hinfo (h.username c hc)
  · rcases List.mem_append.1 hc with hc | hc
    · exact hinfo (h.username c hc)
    · rcases List.mem_cons.1 hc with rfl | hc
      · decide
      · exact hinfo (h.password c hc)

/-- The text of host and port has nothing in it that ends an authority or a user. -/
theorem plain_hostText :
    ∀ c ∈ hostText a, 0x20 < c.toNat ∧ endsAuthority true c = false ∧ c ≠ '@' := by
  intro c hc
  unfold hostText at hc
  rcases List.mem_append.1 hc with hc | hc
  · exact h.host.plain c hc
  · split at hc
    next n _ =>
      rcases List.mem_cons.1 hc with rfl | hc
      · decide
      · have hdigit := List.all_eq_true.1 (Numeral.all_isDigit_digits n) c hc
        obtain ⟨hblank, hends, hat, -⟩ :=
          Host.of_not_isDenied (Host.not_isDenied_of_isDigit hdigit)
        exact ⟨hblank, hends, hat⟩
    next => cases hc

/-- Nor has the text of a user anything that ends an authority. -/
theorem plain_userText : ∀ c ∈ userText a, 0x20 < c.toNat ∧ endsAuthority true c = false := by
  intro c hc
  rcases userText_eq a with ⟨-, -, huser⟩ | ⟨-, huser⟩
  · rw [huser] at hc
    cases hc
  · rw [huser] at hc
    rcases List.mem_append.1 hc with hc | hc
    · obtain ⟨hblank, hends, -⟩ := h.plain_infoText c hc
      exact ⟨hblank, hends⟩
    · rw [List.mem_singleton.1 hc]
      decide

/-- A host has a text. -/
theorem hostText_ne_nil : hostText a ≠ [] := by
  unfold hostText
  exact List.append_ne_nil_of_left_ne_nil h.host.ne_nil _

/-- The slashes before an authority are all that is dropped there. -/
theorem dropWhile_slashes (r : List Char) :
    ('/' :: '/' :: (userText a ++ (hostText a ++ r))).dropWhile (UrlPath.isSlash true) =
      userText a ++ (hostText a ++ r) := by
  have hslash : UrlPath.isSlash true '/' = true := by decide
  have hnoSlash {c : Char} (hc : endsAuthority true c = false) :
      ¬UrlPath.isSlash true c = true := by
    unfold endsAuthority at hc
    rw [Bool.or_eq_false_iff, Bool.or_eq_false_iff] at hc
    rw [hc.1.1]
    exact Bool.false_ne_true
  rw [List.dropWhile_cons_of_pos hslash, List.dropWhile_cons_of_pos hslash]
  cases huser : userText a with
  | cons c t =>
    have hc := h.plain_userText c (huser ▸ List.mem_cons_self)
    exact List.dropWhile_cons_of_neg (hnoSlash hc.2)
  | nil =>
    cases hhost : hostText a with
    | nil => exact absurd hhost h.hostText_ne_nil
    | cons c t =>
      have hc := h.plain_hostText c (hhost ▸ List.mem_cons_self)
      exact List.dropWhile_cons_of_neg (hnoSlash hc.2.1)

/-- Name and password are taken off as they are. -/
theorem takeUser_eq {r : List Char} (hr : FollowsAuthority r) :
    takeUser true (userText a ++ (hostText a ++ r)) =
      .ok (a.username, a.password, hostText a ++ r) := by
  have hhost : ∀ c ∈ hostText a, endsAuthority true c = false ∧ c ≠ '@' :=
    fun c hc => (h.plain_hostText c hc).2
  have husername := Percent.encode_of_plain h.username
  have hpassword := Percent.encode_of_plain h.password
  rcases userText_eq a with ⟨hname, hpass, huser⟩ | ⟨hne, huser⟩
  · unfold takeUser
    rw [huser, List.nil_append, splitUser?_eq_none hr hhost, hname, hpass]
  · have hinfo : ∀ c ∈ infoText a, endsAuthority true c = false :=
      fun c hc => (h.plain_infoText c hc).2.1
    have hempty : (infoText a).isEmpty = false := by
      cases hinfo : infoText a with
      | nil => exact absurd hinfo hne
      | cons => rfl
    have hcolon : ∀ c ∈ a.username, (c != ':') = true := fun c hc =>
      bne_iff_ne.2 (Percent.of_not_userInfo (h.username c hc)).2.2.1
    unfold takeUser
    rw [huser, List.append_assoc, List.singleton_append, splitUser?_eq_some hr hinfo hhost]
    dsimp only
    rw [hempty, Bool.false_and, if_neg Bool.false_ne_true]
    unfold infoText
    cases hpass : a.password with
    | nil =>
      have hname : a.username.takeWhile (· != ':') = a.username :=
        List.takeWhile_eq_self_iff.2 hcolon
      rw [List.isEmpty_nil, if_pos rfl, hname, husername, List.drop_of_length_le (by omega)]
      rfl
    | cons c q =>
      have hname : (a.username ++ ':' :: c :: q).takeWhile (· != ':') = a.username := by
        rw [List.takeWhile_append_of_pos hcolon, List.takeWhile_cons_of_neg (by decide),
          List.append_nil]
      have hdrop : (a.username ++ ':' :: c :: q).drop (a.username.length + 1) = c :: q := by
        simp
      rw [List.isEmpty_cons, if_neg Bool.false_ne_true, hname, husername, hdrop, ← hpass,
        hpassword]

/-- The port is taken off behind the host. -/
theorem takePort_eq {r : List Char} (hr : FollowsAuthority r) :
    takePort scheme ((hostText a).drop a.host.text.length ++ r) = .ok (a.portNo, r) := by
  unfold hostText
  rw [List.drop_left]
  cases hn : a.portNo with
  | none =>
    cases r with
    | nil => rfl
    | cons c r =>
      have hcolon := (of_endsAuthority (hr c rfl)).2
      unfold takePort
      split
      next heq => exact absurd (List.cons.inj heq).1 hcolon
      next => rfl
  | some n =>
    obtain ⟨hle, husual⟩ := h.portNo n hn
    have hdigits : (Numeral.digits n ++ r).takeWhile Char.isDigit = Numeral.digits n := by
      rw [List.takeWhile_append_of_pos (List.all_eq_true.1 (Numeral.all_isDigit_digits n))]
      cases r with
      | nil => exact List.append_nil _
      | cons c r =>
        rw [List.takeWhile_cons_of_neg (by rw [(of_endsAuthority (hr c rfl)).1]; decide),
          List.append_nil]
    have hempty : (Numeral.digits n).isEmpty = false := by
      rw [List.isEmpty_eq_false_iff]
      exact Numeral.digits_ne_nil n
    have hends : r.head?.all (fun c => endsAuthority true c) = true := by
      cases r with
      | nil => rfl
      | cons c r => exact hr c rfl
    rw [List.cons_append, takePort, hdigits, Numeral.value_digits, List.drop_left, hempty,
      beq_false_of_ne husual, hends]
    simp only [Bool.not_true, Bool.or_false, decide_eq_true_eq, Nat.not_lt.2 hle, if_false,
      Bool.false_eq_true]

/-- The host ends where its text does, in front of the port. -/
theorem hostLength_eq {r : List Char} (hr : FollowsAuthority r) :
    hostLength true false (hostText a ++ r) = a.host.text.length := by
  unfold hostText
  rw [List.append_assoc, h.host.length]
  -- A colon ends the host, or what follows the authority, or there is nothing more.
  cases a.portNo with
  | none =>
    rw [List.nil_append]
    cases r with
    | nil => rfl
    | cons c r =>
      rw [hostLength, hr c rfl, Bool.or_true, if_pos rfl]
      rfl
  | some n =>
    rw [List.cons_append, hostLength]
    rfl

/-- **What is written so is read back**, but for the host, whose text is looked up anew. -/
theorem takeAuthority_eq (special : isSpecial scheme = true) {r : List Char}
    (hr : FollowsAuthority r) :
    takeAuthority scheme (userText a ++ (hostText a ++ r)) =
      (Host.ofSpecial a.host.text).map fun host => ({ a with host }, r) := by
  have htake : (hostText a ++ r).take a.host.text.length = a.host.text := by
    unfold hostText
    rw [List.append_assoc, List.take_left]
  have hdrop : (hostText a ++ r).drop a.host.text.length =
      (hostText a).drop a.host.text.length ++ r := by
    unfold hostText
    rw [List.append_assoc, List.drop_left, List.drop_left]
  have hempty : a.host.text.isEmpty = false := List.isEmpty_eq_false_iff.2 h.host.ne_nil
  rw [takeAuthority_special special, h.takeUser_eq hr, Outcome.ok_bind]
  dsimp only
  rw [h.hostLength_eq hr, htake, hdrop, hempty, if_neg Bool.false_ne_true, h.takePort_eq hr]
  cases Host.ofSpecial a.host.text <;> rfl

end Authority.IsWritten

end Stratum
