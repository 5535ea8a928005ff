import Mathlib.Data.List.SplitBy
import Stratum.Proofs.Header

/-!
# Damaged characters

A manifest is cut into lines first, and then every line is decoded by itself, with `U+FFFD` for what
is no text in it. One could as well decode the whole file and cut the text, or even write the text
back as UTF-8 (`Utf8.mend`) and read that: a line feed is never part of a longer character, so a
character that is broken off by one is replaced alike whether or not the next line is in sight, and
no replacement brings a line feed in or takes one away.

> `splitLines_decodeLossy`: cutting and decoding, in either order.
> `Line.ofBytes_mend`: the lines of a mended file are the lines of the file, mended one by one.
> `ofBytes_mended`: so a manifest is read the same from either.
-/

namespace Stratum

open Text

namespace Text

/-! ## Lines of a text -/

/-- The lines of a text, each with its line feed; only the last one can lack it. -/
def splitLines (t : List Char) : List (List Char) := t.splitBy fun c _ => c != '\n'

/-- Characters without a line feed among them, and one more of whatever kind, are not cut. -/
theorem isChain_concat {t : List Char} (h : '\n' ∉ t) (c : Char) :
    (t ++ [c]).IsChain fun d _ => (d != '\n') = true := by
  induction t with
  | nil => exact List.isChain_singleton c
  | cons d t ih =>
    have hd : (d != '\n') = true := bne_iff_ne.2 fun heq => h (heq ▸ List.mem_cons_self)
    have htail := ih fun hfeed => h (List.mem_cons_of_mem d hfeed)
    rw [List.cons_append, List.isChain_cons]
    exact ⟨fun _ _ => hd, htail⟩

/-- A text without a line end is one line. -/
theorem splitLines_of_unended {t : List Char} (ht : t ≠ []) (h : '\n' ∉ t) :
    splitLines t = [t] := by
  rcases List.eq_nil_or_concat' t with rfl | ⟨front, c, rfl⟩
  · exact absurd rfl ht
  · have hfront : '\n' ∉ front := fun hfeed => h (List.mem_append_left [c] hfeed)
    exact List.splitBy_of_isChain ht (isChain_concat hfront c)

/-- The first line of a text goes up to its first line end. -/
theorem splitLines_of_feed {t : List Char} (h : '\n' ∉ t) (r : List Char) :
    splitLines (t ++ '\n' :: r) = (t ++ ['\n']) :: splitLines r := by
  have hcut : ∀ c ∈ (t ++ ['\n']).getLast?, ∀ d ∈ r.head?, (c != '\n') = false := by
    intro c hc d _
    rw [List.getLast?_concat] at hc
    rw [← Option.some.inj hc]
    rfl
  have hfront : (t ++ ['\n']).splitBy (fun c _ => c != '\n') = [t ++ ['\n']] :=
    List.splitBy_of_isChain (by simp) (isChain_concat h '\n')
  unfold splitLines
  rw [List.append_cons, List.splitBy_append hcut, hfront]
  rfl

/-! ## Mended bytes -/

namespace Utf8

/-- A byte string with every malformed part replaced: what it is decoded to, written as UTF-8. -/
def mend (s : Bytes) : Bytes := encode (decodeLossy s)

/-- Nothing is left to be replaced. -/
theorem decodeLossy_mend (s : Bytes) : decodeLossy (mend s) = decodeLossy s :=
  decodeLossy_of_decode? (decode?_encode (decodeLossy s))

theorem mend_nil : mend [] = [] := by
  rw [mend, decodeLossy]
  rfl

/-- Every byte string gives some character, if it has a byte. -/
theorem decodeLossy_ne_nil {s : Bytes} (h : s ≠ []) : decodeLossy s ≠ [] := by
  cases s with
  | nil => exact absurd rfl h
  | cons b r =>
    rw [decodeLossy]
    exact List.cons_ne_nil _ _

theorem mend_ne_nil {s : Bytes} (h : s ≠ []) : mend s ≠ [] := by
  intro hnil
  have hdecoded := decodeLossy_mend s
  rw [hnil, decodeLossy] at hdecoded
  exact decodeLossy_ne_nil h hdecoded.symm

end Utf8

namespace Line

/-- A line with every malformed part replaced. -/
def mend (l : Line) : Line := { l with body := Utf8.mend l.body }

/-- Line ends are decoded from line ends only. -/
theorem feed_not_mem_decodeLossy {s : Bytes} (h : ∀ b ∈ s, b ≠ feed) :
    '\n' ∉ Utf8.decodeLossy s := fun hfeed =>
  h feed (Utf8.mem_of_mem_decodeLossy (c := '\n') (by decide) hfeed) rfl

/-- A line feed is decoded to itself, and what is on one side of it has no part in what is on the
other. -/
theorem decodeLossy_append_feed (s r : Bytes) :
    Utf8.decodeLossy (s ++ feed :: r) = Utf8.decodeLossy s ++ '\n' :: Utf8.decodeLossy r := by
  rw [Utf8.decodeLossy_append (by decide), Utf8.decodeLossy_cons (by decide)]
  rfl

/-- **Lines are mended one by one.** -/
theorem mend_append_feed (s r : Bytes) :
    Utf8.mend (s ++ feed :: r) = Utf8.mend s ++ feed :: Utf8.mend r := by
  unfold Utf8.mend Utf8.encode
  rw [decodeLossy_append_feed, List.flatMap_append, List.flatMap_cons]
  rfl

/-- **No line comes or goes**, and none gets or loses a line feed. -/
theorem ofBytes_mend (content : Bytes) :
    ofBytes (Utf8.mend content) = (ofBytes content).map mend := by
  induction content using byLines with
  | nil =>
    rw [Utf8.mend_nil]
    rfl
  | unended s hne hs =>
    have hmended := ne_feed_of_mem_encode (feed_not_mem_decodeLossy hs)
    rw [ofBytes_of_unended hne hs, ofBytes_of_unended (Utf8.mend_ne_nil hne) hmended]
    rfl
  | ended s r hs ih =>
    -- No replacement brings in a line feed, so the first one is still the first.
    have hmended := ne_feed_of_mem_encode (feed_not_mem_decodeLossy hs)
    rw [mend_append_feed, ofBytes_of_feed hs]
    exact (ofBytes_of_feed hmended _).trans (congrArg _ ih)

/-- A character that a line feed breaks off, and one that the end breaks off. -/
example : Utf8.mend [78, 0xe2, 0x82, 10, 0xf0, 0x9f] =
    [78, 0xef, 0xbf, 0xbd, 10, 0xef, 0xbf, 0xbd] := by
  decide +kernel

/-- **Cutting and decoding can change places.** -/
theorem splitLines_decodeLossy (content : Bytes) :
    splitLines (Utf8.decodeLossy content) =
      (ofBytes content).map fun l => Utf8.decodeLossy l.bytes := by
  induction content using byLines with
  | nil =>
    rw [Utf8.decodeLossy]
    rfl
  | unended s hne hs =>
    have hplain := feed_not_mem_decodeLossy hs
    rw [ofBytes_of_unended hne hs, splitLines_of_unended (Utf8.decodeLossy_ne_nil hne) hplain]
    rfl
  | ended s r hs ih =>
    have hline : Utf8.decodeLossy (s ++ [feed]) = Utf8.decodeLossy s ++ ['\n'] := by
      rw [decodeLossy_append_feed, Utf8.decodeLossy]
    rw [decodeLossy_append_feed, splitLines_of_feed (feed_not_mem_decodeLossy hs), ih,
      ofBytes_of_feed hs, ← hline]
    rfl

/-- The bytes of a line are mended as a whole, its line feed included. -/
theorem bytes_mend (l : Line) : l.mend.bytes = Utf8.mend l.bytes := by
  obtain ⟨body, ended⟩ := l
  cases ended with
  | false => rfl
  | true =>
    show Utf8.mend body ++ [feed] = Utf8.mend (body ++ [feed])
    rw [mend_append_feed, Utf8.mend_nil]

end Line

end Text

/-! ## Manifests -/

namespace Manifest

/-- A mended line has the text that it had. -/
theorem lineText_mend (l : Line) : lineText l.mend = lineText l := by
  unfold lineText
  rw [Line.bytes_mend, Utf8.decodeLossy_mend]

/-- **When damaged characters are replaced makes no difference.** The lines of a file that has been
decoded as a whole are its lines, decoded one by one; and if it is written back before it is read,
the lines stand where they stood, each says what it said, be it a field or the end of the header, and
what comes of them is the same manifest, or the same refusal. -/
theorem ofBytes_mended (content : Bytes) :
    splitLines (Utf8.decodeLossy content) =
        (Line.ofBytes content).map (fun l => Utf8.decodeLossy l.bytes) ∧
      Line.ofBytes (Utf8.mend content) = (Line.ofBytes content).map Line.mend ∧
      (Line.ofBytes (Utf8.mend content)).map lineText = (Line.ofBytes content).map lineText ∧
      ofBytes (Utf8.mend content) = ofBytes content := by
  have htexts : (Line.ofBytes (Utf8.mend content)).map lineText =
      (Line.ofBytes content).map lineText := by
    rw [Line.ofBytes_mend, List.map_map]
    exact congrArg (List.map · _) (funext lineText_mend)
  refine ⟨Line.splitLines_decodeLossy content, Line.ofBytes_mend content, htexts, ?_⟩
  unfold ofBytes header
  rw [htexts]

end Manifest

end Stratum
