import Mathlib.Data.List.TakeWhile
import Stratum.Proofs.Discovery
import Stratum.Proofs.Header

/-!
# What is not read

A manifest is read up to the line that ends its header, and a marker up to its first line feed.
What stands behind is a signature in the one and nothing in particular in the other, and may be any
bytes at all. Both stops are stated here on the bytes themselves: `SameHeader` and `SameFirstLine`
say when two artifacts differ only in what is not read. They are not alike. The header is cut into
lines before anything is decoded, and damaged characters are replaced; the first line of a marker
has to be text, but nothing else has.

> `discover_eq_of_same`: two sources whose artifacts differ only in what is not read show the same
> repository, or the same failure.
-/

namespace Stratum

open Text

/-! ## The end of a header -/

namespace Manifest

/-- A dash. -/
def dash : UInt8 := 45

/-- What starts with the line that ends a header: two dashes, and behind them carriage returns only,
up to a line feed or the end. -/
def StartsWithEnd (s : Bytes) : Prop :=
  ∃ returns rest, s = dash :: dash :: (List.replicate returns Line.carriage ++ rest) ∧
    (rest = [] ∨ rest.head? = some Line.feed)

/-- Two manifests are the same, or the same up to the line that ends their headers. -/
inductive SameHeader : Bytes → Bytes → Prop
  | same (content : Bytes) : SameHeader content content
  | ended {front s s' : Bytes} (hfront : Line.EndsLine front) (hs : StartsWithEnd s)
    (hs' : StartsWithEnd s') : SameHeader (front ++ s) (front ++ s')

/-- Two dashes and the end of the line are the terminator. -/
theorem lineText_of_dashes {l : Line} {bs : Bytes} (hl : l.bytes = dash :: dash :: bs)
    (h : Line.Ends bs) : lineText l = terminator := by
  have hbytes : l.bytes = [dash, dash] ++ bs := hl
  rw [lineText_of_ends hbytes h, Utf8.decodeLossy_cons (by decide),
    Utf8.decodeLossy_cons (by decide), Utf8.decodeLossy]
  rfl

/-- Such a line is taken for the end of the header. -/
theorem StartsWithEnd.lines {s : Bytes} (h : StartsWithEnd s) :
    ∃ l ls, Line.ofBytes s = l :: ls ∧ lineText l = terminator := by
  obtain ⟨returns, rest, rfl, hrest⟩ := h
  have hreturn : ∀ b ∈ List.replicate returns Line.carriage, b = Line.carriage := fun b hb =>
    List.eq_of_mem_replicate hb
  have hnofeed : ∀ b ∈ dash :: dash :: List.replicate returns Line.carriage, b ≠ Line.feed := by
    intro b hb
    rcases List.mem_cons.1 hb with rfl | hb
    · decide
    rcases List.mem_cons.1 hb with rfl | hb
    · decide
    · rw [hreturn b hb]
      decide
  rcases hrest with rfl | hrest
  · refine ⟨⟨dash :: dash :: List.replicate returns Line.carriage, false⟩, [], ?_, ?_⟩
    · rw [List.append_nil]
      exact Line.ofBytes_of_unended (List.cons_ne_nil _ _) hnofeed
    · exact lineText_of_dashes rfl fun b hb => Or.inl (hreturn b hb)
  · obtain ⟨rest, rfl⟩ := List.head?_eq_some_iff.1 hrest
    refine ⟨⟨dash :: dash :: List.replicate returns Line.carriage, true⟩, Line.ofBytes rest, ?_, ?_⟩
    · exact Line.ofBytes_of_feed hnofeed rest
    · have hends : Line.Ends (List.replicate returns Line.carriage ++ [Line.feed]) := by
        intro b hb
        rcases List.mem_append.1 hb with hb | hb
        · exact Or.inl (hreturn b hb)
        · exact Or.inr (List.mem_singleton.1 hb)
      exact lineText_of_dashes rfl hends

/-- What stands behind the terminator does not belong to the header. -/
theorem header_append_of_end {front s : Bytes} (hfront : Line.EndsLine front)
    (hs : StartsWithEnd s) :
    header (front ++ s) =
      ((Line.ofBytes front).map lineText).takeWhile (· != terminator) := by
  obtain ⟨l, ls, hlines, hl⟩ := hs.lines
  unfold header
  rw [Line.ofBytes_append hfront, hlines, List.map_append, List.map_cons, hl,
    List.takeWhile_append]
  split
  next h =>
    rw [List.takeWhile_cons_of_neg (by simp), List.append_nil]
    exact ((List.takeWhile_prefix _).eq_of_length h).symm
  next => rfl

/-- **What stands behind the end of a header is not read.** -/
theorem SameHeader.ofBytes_eq {a b : Bytes} (h : SameHeader a b) : ofBytes a = ofBytes b := by
  cases h with
  | same => rfl
  | ended hfront hs hs' =>
    unfold ofBytes
    rw [header_append_of_end hfront hs, header_append_of_end hfront hs']

end Manifest

/-! ## The first line of a marker -/

namespace Source

/-- Two markers are the same, or the same up to a line feed. -/
inductive SameFirstLine : Bytes → Bytes → Prop
  | same (content : Bytes) : SameFirstLine content content
  | ended (front rest rest' : Bytes) :
    SameFirstLine (front ++ Line.feed :: rest) (front ++ Line.feed :: rest')

/-- **What stands behind the first line feed of a marker is not read.** -/
theorem SameFirstLine.readMarker_eq {a b : Bytes} (h : SameFirstLine a b) :
    readMarker a = readMarker b := by
  cases h with
  | same => rfl
  | ended front rest rest' =>
    unfold readMarker markerText?
    rw [Line.first_append_feed front rest, Line.first_append_feed front rest']

/-! ## Two sources -/

/-- Two answers to the question for an artifact that differ only in what is not read of it. A
missing artifact may be reported in the words of each source. -/
inductive SameAnswer (same : Bytes → Bytes → Prop) :
    Except Failure Bytes → Except Failure Bytes → Prop
  | held {a b : Bytes} (h : same a b) : SameAnswer same (.ok a) (.ok b)
  | lacking (repository name repository' name' : String) :
    SameAnswer same (.error (.artifactNotFound repository name))
      (.error (.artifactNotFound repository' name'))
  | failing (d : Failure) : SameAnswer same (.error d) (.error d)

/-- Two sources at one place whose artifacts differ only in what is not read. -/
structure SameArtifacts (layout : Layout) (s t : Source) : Prop where
  location : s.location = t.location
  manifest : SameAnswer Manifest.SameHeader (s.retrieve layout.manifestName)
    (t.retrieve layout.manifestName)
  lastReplication : SameAnswer SameFirstLine (s.retrieve layout.lastReplicationName)
    (t.retrieve layout.lastReplicationName)
  replicating : SameAnswer SameFirstLine (s.retrieve layout.replicatingName)
    (t.retrieve layout.replicatingName)

variable {s t : Source} {layout : Layout}

/-- The same header gives the same manifest, or the same failure. -/
theorem manifest_eq_of_same {name : String} (hlocation : s.location = t.location)
    (h : SameAnswer Manifest.SameHeader (s.retrieve name) (t.retrieve name)) :
    s.manifest name = t.manifest name := by
  unfold manifest fetch?
  generalize s.retrieve name = x at h
  generalize t.retrieve name = y at h
  cases h with
  | held h =>
    show Trail.ask name _ >>= _ = Trail.ask name _ >>= _
    rw [Trail.bind_of_ok (Trail.outcome_ask _ _), Trail.bind_of_ok (Trail.outcome_ask _ _)]
    simp only [h.ofBytes_eq]
    rfl
  | lacking => rw [hlocation]
  | failing d => rw [hlocation]

/-- The same first line gives the same time, or the same failure. -/
theorem marker?_eq_of_same {name : String}
    (h : SameAnswer SameFirstLine (s.retrieve name) (t.retrieve name)) :
    s.marker? name = t.marker? name := by
  unfold marker? fetch?
  generalize s.retrieve name = x at h
  generalize t.retrieve name = y at h
  cases h with
  | held h =>
    show Trail.ask name _ >>= _ = Trail.ask name _ >>= _
    rw [Trail.bind_of_ok (Trail.outcome_ask _ _), Trail.bind_of_ok (Trail.outcome_ask _ _)]
    simp only [h.readMarker_eq]
    rfl
  | lacking => rfl
  | failing d => rfl

/-- **Only the header of the manifest and the first lines of the markers count.** Where two sources
differ in nothing else, discovery asks them for the same and comes to the same: the same state, or
the same failure. -/
theorem discover_eq_of_same (h : SameArtifacts layout s t) (declared : Kind) (version : String) :
    s.discover layout declared version = t.discover layout declared version := by
  unfold discover
  rw [manifest_eq_of_same h.location h.manifest, marker?_eq_of_same h.lastReplication,
    marker?_eq_of_same h.replicating]

/-- A repository in memory, whose artifacts end as they are told to. -/
def loose (signature later : Bytes) : Source := memory "memory"
  [(".cvmfspublished", "Na.org\nS7\n--".utf8 ++ signature),
    (".cvmfs_last_snapshot", "2020-01-01T00:00:00Z\n".utf8 ++ later)]

/-- A signature that is no text does not matter, nor do damaged bytes behind the first line of a
marker. -/
theorem discover_eq_of_same_loose :
    SameArtifacts {} (loose [] []) (loose [13, 13, 10, 0xff, 0xc3] [0xff, 10, 10]) ∧
    (loose [] []).discover {} .unknown "5" =
      (loose [13, 13, 10, 0xff, 0xc3] [0xff, 10, 10]).discover {} .unknown "5" ∧
    ((loose [] []).discover {} .unknown "5").outcome.map State.kind = .ok .stratum1 := by
  have hsame : SameArtifacts {} (loose [] []) (loose [13, 13, 10, 0xff, 0xc3] [0xff, 10, 10]) := by
    have hheader : Manifest.SameHeader ("Na.org\nS7\n--".utf8 ++ [])
        ("Na.org\nS7\n--".utf8 ++ [13, 13, 10, 0xff, 0xc3]) := by
      have hsplit : "Na.org\nS7\n--".utf8 = "Na.org\nS7\n".utf8 ++ "--".utf8 := by decide
      have hfront : Line.EndsLine "Na.org\nS7\n".utf8 := Or.inr (by decide)
      have hend : Manifest.StartsWithEnd "--".utf8 := ⟨0, [], by decide, Or.inl rfl⟩
      have hlater : Manifest.StartsWithEnd ("--".utf8 ++ [13, 13, 10, 0xff, 0xc3]) :=
        ⟨2, [10, 0xff, 0xc3], by decide, Or.inr rfl⟩
      rw [List.append_nil, hsplit, List.append_assoc]
      exact .ended hfront hend hlater
    have hline : SameFirstLine ("2020-01-01T00:00:00Z\n".utf8 ++ [])
        ("2020-01-01T00:00:00Z\n".utf8 ++ [0xff, 10, 10]) := by
      have hsplit : "2020-01-01T00:00:00Z\n".utf8 = "2020-01-01T00:00:00Z".utf8 ++ [Line.feed] := by
        decide +kernel
      rw [hsplit, List.append_assoc, List.append_assoc]
      exact .ended _ [] [0xff, 10, 10]
    exact ⟨rfl, .held hheader, .held hline, .lacking _ _ _ _⟩
  exact ⟨hsame, discover_eq_of_same hsame .unknown "5", by decide +kernel⟩

end Source

end Stratum
