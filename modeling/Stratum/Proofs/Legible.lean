import Stratum.Proofs.Display
import Stratum.Proofs.Entries
import Stratum.Proofs.LocalOpening
import Stratum.Proofs.RemoteOpening
import Stratum.Proofs.Replicated

/-!
# What can be read off a report

A report has a line for everything that is known of a repository, and the label of a line says what
it is about. So what a report shows can be read off it again, and two repositories have the same
report only if they do not differ in anything that is shown. This asks for values without line
feeds; what comes out of a manifest never has one.

> `info_fields_injective`: a report can be cut into its lines, and these into labels and values.
> `inRange_iff`: the seconds of the times that can be shown.
> `info_eq_info_iff`: which repositories have the same report, and how many lines it has.
-/

namespace Stratum

open Text Time

/-! ## The states of repositories -/

/-- A state that a repository can have: its manifest has been read, and its times are such as there
are. -/
structure State.Genuine (s : State) : Prop where
  manifest : ∃ content, Manifest.ofBytes content = .ok s.manifest
  lastReplication : s.lastReplication.Regular
  replicatingSince : ∀ t ∈ s.replicatingSince, t.Regular

theorem Time.Instant.regular_epoch : Instant.epoch.Regular :=
  Instant.regular_of_ofSeconds? (n := 0) rfl

namespace Source

/-- A marker that is read has the time of a regular instant. -/
theorem regular_of_readMarker {content : Bytes} {t : Instant}
    (h : readMarker content = .ok t) : t.Regular := by
  unfold readMarker at h
  split at h
  · cases h
  · unfold readTime at h
    split at h
    next hread =>
      obtain rfl := Except.ok.inj h
      exact Timestamp.regular_of_read? hread
    next => cases h

/-- So has one that may be missing, if it is there. -/
theorem regular_of_markerOf {content : Option Bytes} {o : Option Instant}
    (h : markerOf content = .ok o) : ∀ t ∈ o, t.Regular := by
  intro t ht
  cases content with
  | none =>
    obtain rfl := Except.ok.inj h
    cases ht
  | some content =>
    obtain ⟨u, hu, rfl⟩ := Outcome.map_eq_ok_iff.1 h
    obtain rfl := Option.some.inj ht
    exact regular_of_readMarker hu

/-- What discovery finds is the state of a repository. -/
theorem genuine_of_discover {source : Source} {layout : Layout} {declared : Kind} {version : String}
    {s : State} (h : (source.discover layout declared version).outcome = .ok s) : s.Genuine := by
  rw [outcome_discover] at h
  obtain ⟨m, -, h⟩ := Outcome.bind_eq_ok_iff.1 h
  obtain ⟨manifest, hmanifest, h⟩ := Outcome.bind_eq_ok_iff.1 h
  obtain ⟨l, -, h⟩ := Outcome.bind_eq_ok_iff.1 h
  obtain ⟨last, hlast, h⟩ := Outcome.bind_eq_ok_iff.1 h
  obtain ⟨r, -, h⟩ := Outcome.bind_eq_ok_iff.1 h
  obtain ⟨since, hsince, h⟩ := Outcome.bind_eq_ok_iff.1 h
  obtain rfl := Except.ok.inj h
  refine { manifest := ?_, lastReplication := ?_, replicatingSince := ?_ }
  · cases m with
    | none => cases hmanifest
    | some content => exact ⟨content, Outcome.mapError_eq_ok_iff.1 hmanifest⟩
  · cases last with
    | none => exact Instant.regular_epoch
    | some t => exact regular_of_markerOf hlast t rfl
  · exact regular_of_markerOf hsince

end Source

/-- **A repository of this machine** has a state in which all is as it is read. -/
theorem Local.genuine_of_load {f : Files} {layout : Layout} {fqrn : String} {r : Local}
    (h : Local.load f layout fqrn = .ok r) : r.state.Genuine := by
  obtain ⟨setup, state, -, hstate, rfl⟩ := Local.load_eq_ok_iff.1 h
  obtain ⟨hmanifest, hlast, hsince⟩ := Source.genuine_of_discover hstate
  exact ⟨hmanifest, hlast, hsince⟩

/-- **A repository on the web** has, too. -/
theorem Remote.genuine_of_connect {w : Web} {layout : Layout} {url : String} {r : Remote}
    (h : (Remote.connect w layout url).outcome = .ok r) : r.state.Genuine := by
  rw [Remote.outcome_connect] at h
  obtain ⟨e, -, h⟩ := Outcome.bind_eq_ok_iff.1 h
  obtain ⟨told, -, h⟩ := Outcome.bind_eq_ok_iff.1 h
  obtain ⟨state, hstate, rfl⟩ := Outcome.map_eq_ok_iff.1 h
  exact Source.genuine_of_discover hstate

/-- Kinds differ by their names. -/
theorem Kind.name_injective : Function.Injective Kind.name := by
  intro k k' h
  have hread := Kind.ofName?_name k
  rw [h, Kind.ofName?_name k'] at hread
  exact (Option.some.inj hread).symm

/-! ## Times -/

/-- A year has been reached once its first day has. -/
theorem Time.le_yearOfDay_iff {k y : Int} : y ≤ yearOfDay k ↔ daysBeforeYear y ≤ k := by
  obtain ⟨low, high⟩ := yearOfDay_bounds k
  constructor
  · intro h
    exact Int.le_trans (daysBeforeYear_mono h) low
  · intro h
    by_contra hlt
    have := daysBeforeYear_mono (show yearOfDay k + 1 ≤ y by omega)
    omega

/-- It lasts until the next one begins. -/
theorem Time.yearOfDay_le_iff {k y : Int} : yearOfDay k ≤ y ↔ k < daysBeforeYear (y + 1) := by
  have h := le_yearOfDay_iff (k := k) (y := y + 1)
  omega

namespace Time.Instant

/-- The seconds of the times that can be shown: from the first of the admitted years to the last. -/
theorem inRange_iff (n : Int) (nanos : Nat) :
    inRange ⟨n, nanos⟩ = true ↔ -8334601228800 ≤ n ∧ n ≤ 8210266876799 := by
  have hrange : inRange ⟨n, nanos⟩ = true ↔
      -262143 ≤ yearOfDay (n / daySeconds + epochDay) ∧
        yearOfDay (n / daySeconds + epochDay) ≤ 262142 := by
    unfold inRange yearInRange
    rw [Bool.and_eq_true, decide_eq_true_eq, decide_eq_true_eq]
    rfl
  have hfirst : daysBeforeYear (-262143) = -95746130 := by decide
  have hafter : daysBeforeYear (262142 + 1) = 95745399 := by decide
  rw [hrange, le_yearOfDay_iff, yearOfDay_le_iff, hfirst, hafter]
  unfold daySeconds epochDay
  omega

/-- Seconds are a time between two fixed bounds. -/
theorem ofSeconds?_eq (n : Int) :
    ofSeconds? n = if -8334601228800 ≤ n ∧ n ≤ 8210266876799 then some ⟨n, 0⟩ else none := by
  unfold ofSeconds?
  simp only [inRange_iff]

/-- The fraction of a second is not shown. -/
theorem display_whole {t : Instant} (h : t.Regular) : t.whole.display = t.display := by
  have hnanos : t.whole.nanos / secondNanos = t.nanos / secondNanos := by
    have hhigh := h.nanos_lt
    show (if t.isLeapSecond then secondNanos else 0) / secondNanos = t.nanos / secondNanos
    cases hleap : t.isLeapSecond with
    | true =>
      have hlow : secondNanos ≤ t.nanos := of_decide_eq_true hleap
      rw [if_pos rfl]
      unfold secondNanos at *
      omega
    | false =>
      have hlow : ¬secondNanos ≤ t.nanos := of_decide_eq_false hleap
      rw [if_neg Bool.false_ne_true]
      unfold secondNanos at *
      omega
  unfold display
  rw [hnanos]
  rfl

/-- A number has no line end in it. -/
theorem feed_not_mem_padded (w n : Nat) : '\n' ∉ Numeral.padded w n := fun h =>
  absurd (Numeral.isDigit_of_mem_padded h) (by decide)

/-- A year has none, also with a sign. -/
theorem feed_not_mem_yearText (y : Int) : '\n' ∉ yearText y := by
  have hdigits := feed_not_mem_padded 4 y.natAbs
  unfold yearText
  simp only
  split
  · simpa using hdigits
  · split
    · simpa using hdigits
    · exact hdigits

/-- Hence a time has none either. -/
theorem feed_not_mem_display (t : Instant) : '\n' ∉ t.display := by
  have htwo := feed_not_mem_padded 2
  rw [display_eq]
  simp only [List.mem_append, List.mem_cons, feed_not_mem_yearText, htwo, Char.reduceEq, or_self,
    not_false_eq_true]

end Time.Instant

namespace Report

/-! ## The values of a report -/

/-- **Times are shown alike** exactly if they have the same seconds, and both or neither are leap
seconds. -/
theorem timeText_eq_iff {t u : Instant} (ht : t.Regular) (hu : u.Regular) :
    timeText t = timeText u ↔ t.whole = u.whole := by
  constructor
  · intro h
    have hdisplay : t.display = u.display := List.append_cancel_right (String.ofList_injective h)
    have hread := Timestamp.read?_display ht
    rw [hdisplay, Timestamp.read?_display hu] at hread
    exact (Option.some.inj hread).symm
  · intro h
    unfold timeText
    rw [← Instant.display_whole ht, h, Instant.display_whole hu]

theorem feed_not_mem_timeText (t : Instant) : '\n' ∉ (timeText t).toList := by
  unfold timeText
  rw [String.toList_ofList, List.mem_append]
  rintro (h | h)
  · exact Instant.feed_not_mem_display t h
  · exact absurd h (by decide)

/-- The time of publication, if it can be shown. -/
def published? (m : Manifest) : Option Instant :=
  m.lastModified.bind fun n => Instant.ofSeconds? n.toInt

/-- A time of publishing is in whole seconds. -/
theorem regular_of_published? {m : Manifest} {t : Instant} (h : published? m = some t) :
    t.Regular ∧ t.whole = t := by
  obtain ⟨n, -, ht⟩ := Option.bind_eq_some_iff.1 h
  refine ⟨Instant.regular_of_ofSeconds? ht, ?_⟩
  obtain ⟨rfl, -⟩ := Instant.ofSeconds?_eq_some ht
  rfl

/-- Times of publishing are shown alike exactly if they are the same. -/
theorem publishedText_eq_iff {m m' : Manifest} :
    publishedText m = publishedText m' ↔ published? m = published? m' := by
  show (published? m).map timeText = (published? m').map timeText ↔ _
  cases h : published? m with
  | none => cases h' : published? m' <;> simp
  | some t =>
    cases h' : published? m' with
    | none => simp
    | some t' =>
      obtain ⟨ht, hwhole⟩ := regular_of_published? h
      obtain ⟨ht', hwhole'⟩ := regular_of_published? h'
      simp only [Option.map_some, Option.some.injEq]
      rw [timeText_eq_iff ht ht', hwhole, hwhole']

/-- The second in which the last replication ended, if there was one. -/
def replicated? (s : State) : Option Instant :=
  if s.hasBeenReplicated then some s.lastReplication.whole else none

/-- Last replications are shown alike exactly if they are the same time, or both are none. -/
theorem replicationText_eq_iff {s s' : State} (h : s.Genuine) (h' : s'.Genuine) :
    replicationText s = replicationText s' ↔ replicated? s = replicated? s' := by
  unfold replicationText replicated?
  cases s.hasBeenReplicated with
  | false =>
    cases s'.hasBeenReplicated with
    | false => simp only [Bool.false_eq_true, if_false]
    | true =>
      simp only [Bool.false_eq_true, if_false, if_true]
      exact iff_of_false (timeText_ne_never _).symm nofun
  | true =>
    cases s'.hasBeenReplicated with
    | false =>
      simp only [Bool.false_eq_true, if_false, if_true]
      exact iff_of_false (timeText_ne_never _) nofun
    | true =>
      simp only [if_true]
      rw [timeText_eq_iff h.lastReplication h'.lastReplication, Option.some.injEq]

/-- The beginnings of running replications likewise, up to parts of a second. -/
theorem replicatingText_eq_iff {s s' : State} (h : s.Genuine) (h' : s'.Genuine) :
    replicatingText s = replicatingText s' ↔
      s.replicatingSince.map Instant.whole = s'.replicatingSince.map Instant.whole := by
  have hno : ∀ t, "since " ++ timeText t ≠ "no" := by
    intro t heq
    have hhead := congrArg (fun text => text.toList.head?) heq
    rw [String.toList_append, List.head?_append] at hhead
    cases hhead
  unfold replicatingText
  cases ht : s.replicatingSince with
  | none =>
    cases ht' : s'.replicatingSince with
    | none => exact iff_of_true rfl rfl
    | some t' => exact iff_of_false (hno t').symm nofun
  | some t =>
    cases ht' : s'.replicatingSince with
    | none => exact iff_of_false (hno t) nofun
    | some t' =>
      show "since " ++ timeText t = "since " ++ timeText t' ↔ some _ = some _
      rw [String.append_right_inj, Option.some.injEq,
        timeText_eq_iff (h.replicatingSince t ht) (h'.replicatingSince t' ht')]

/-- Numbers differ by their digits. -/
theorem unsignedText_injective : Function.Injective Manifest.unsignedText := by
  intro m n h
  have hread := Manifest.read_unsignedText m
  rw [h, Manifest.read_unsignedText n] at hread
  exact (Option.some.inj hread).symm

/-! ## Lines -/

/-- Lines one after another, each with its end. -/
theorem toList_unlines (ls : List String) :
    (unlines ls).toList = ls.flatMap fun l => l.toList ++ ['\n'] := by
  unfold unlines
  rw [String.toList_join, List.flatMap_map]
  refine congrArg (ls.flatMap ·) (funext fun l => ?_)
  exact String.toList_append

/-- A text can be cut at its first line feed in one way. -/
theorem append_feed_inj {a b r t : List Char} (ha : '\n' ∉ a) (hb : '\n' ∉ b)
    (h : a ++ '\n' :: r = b ++ '\n' :: t) : a = b ∧ r = t := by
  induction a generalizing b with
  | nil =>
    cases b with
    | nil => exact ⟨rfl, (List.cons.inj h).2⟩
    | cons c b => exact absurd ((List.cons.inj h).1 ▸ List.mem_cons_self) hb
  | cons c a ih =>
    cases b with
    | nil => exact absurd ((List.cons.inj h).1 ▸ List.mem_cons_self) ha
    | cons d b =>
      obtain ⟨rfl, htail⟩ := List.cons.inj h
      obtain ⟨rfl, hrest⟩ := ih (fun hmem => ha (List.mem_cons_of_mem c hmem))
        (fun hmem => hb (List.mem_cons_of_mem c hmem)) htail
      exact ⟨rfl, hrest⟩

/-- The labels of a report, in their order. -/
def labels : List String :=
  ["Repository", "Location", "Type", "Version", "Revision", "Root catalog", "Published",
    "Last replication", "Replicating"]

/-- The label is what the first eighteen characters of a line say. -/
theorem labelled_inj {label label' value value' : String} (hlabel : label ∈ labels)
    (hlabel' : label' ∈ labels) (h : labelled label value = labelled label' value') :
    label = label' ∧ value = value' := by
  have hwidth : ∀ label ∈ labels, (fill 18 (label ++ ":")).toList.length = 18 := by decide +kernel
  have hdistinct : ∀ label ∈ labels, ∀ label' ∈ labels,
      fill 18 (label ++ ":") = fill 18 (label' ++ ":") → label = label' := by decide +kernel
  have hlists := congrArg String.toList h
  unfold labelled at hlists
  rw [String.toList_append, String.toList_append] at hlists
  obtain ⟨hfill, hvalue⟩ :=
    List.append_inj hlists ((hwidth label hlabel).trans (hwidth label' hlabel').symm)
  exact ⟨hdistinct label hlabel label' hlabel' (String.toList_inj.1 hfill),
    String.toList_inj.1 hvalue⟩

/-- A field that can be a line of a report. -/
def IsField (e : String × String) : Prop := e.1 ∈ labels ∧ '\n' ∉ e.2.toList

/-- The line of a field. -/
def line (e : String × String) : String := labelled e.1 e.2

/-- The line of a field is one line. -/
theorem IsField.feed_not_mem {e : String × String} (h : IsField e) : '\n' ∉ (line e).toList := by
  have hlabels : ∀ label ∈ labels, '\n' ∉ (fill 18 (label ++ ":")).toList := by decide +kernel
  unfold line labelled
  rw [String.toList_append, List.mem_append]
  rintro (hmem | hmem)
  · exact hlabels e.1 h.1 hmem
  · exact h.2 hmem

/-- **Lines can be cut apart, and each of them into its label and its value.** -/
theorem info_fields_injective {es fs : List (String × String)} (hes : ∀ e ∈ es, IsField e)
    (hfs : ∀ e ∈ fs, IsField e) (h : unlines (es.map line) = unlines (fs.map line)) : es = fs := by
  have hlists := congrArg String.toList h
  rw [toList_unlines, toList_unlines] at hlists
  clear h
  induction es generalizing fs with
  | nil =>
    cases fs with
    | nil => rfl
    | cons f fs => exact absurd hlists (by simp)
  | cons e es ih =>
    cases fs with
    | nil => exact absurd hlists (by simp)
    | cons f fs =>
      obtain ⟨he, hes⟩ := List.forall_mem_cons.1 hes
      obtain ⟨hf, hfs⟩ := List.forall_mem_cons.1 hfs
      simp only [List.map_cons, List.flatMap_cons, List.append_assoc,
        List.singleton_append] at hlists
      obtain ⟨hline, hrest⟩ := append_feed_inj he.feed_not_mem hf.feed_not_mem hlists
      obtain ⟨hlabel, hvalue⟩ := labelled_inj he.1 hf.1 (String.toList_inj.1 hline)
      rw [Prod.ext hlabel hvalue, ih hes hfs hrest]

/-! ## The fields of a report -/

/-- What stands behind each label, if there is such a line. -/
def shown (location : String) (s : State) : List (String × Option String) :=
  [("Repository", some s.fqrn), ("Location", some location), ("Type", some s.kind.name),
    ("Version", some s.version), ("Revision", s.manifest.revision.map Manifest.unsignedText),
    ("Root catalog", s.manifest.rootCatalog), ("Published", publishedText s.manifest),
    ("Last replication", some (replicationText s)), ("Replicating", some (replicatingText s))]

/-- The fields of a report are the values that are there. -/
theorem infoFields_eq (location : String) (s : State) :
    infoFields location s = Keyed.present (shown location s) := by
  unfold infoFields shown
  cases s.manifest.revision <;> cases s.manifest.rootCatalog <;>
    cases publishedText s.manifest <;> rfl

/-- The fields say which values are there, and what they are. -/
theorem shown_of_infoFields_eq {location location' : String} {s s' : State}
    (h : infoFields location s = infoFields location' s') :
    shown location s = shown location' s' := by
  have hnodup : labels.Nodup := by decide
  have hlookup : ∀ label, ((shown location s).lookup label).join =
      ((shown location' s').lookup label).join := by
    intro label
    rw [← Keyed.lookup_present (show ((shown location s).map Prod.fst).Nodup from hnodup),
      ← Keyed.lookup_present (show ((shown location' s').map Prod.fst).Nodup from hnodup),
      ← infoFields_eq, ← infoFields_eq, h]
  have hvalues : ∀ label ∈ labels, ((shown location s).lookup label).join =
      ((shown location' s').lookup label).join := fun label _ => hlookup label
  simp only [labels, List.forall_mem_cons, shown, Keyed.lookup_cons, String.reduceEq, if_true,
    if_false, Option.join_some] at hvalues
  obtain ⟨h₁, h₂, h₃, h₄, h₅, h₆, h₇, h₈, h₉, -⟩ := hvalues
  unfold shown
  rw [h₁, h₂, h₃, h₄, h₅, h₆, h₇, h₈, h₉]

/-- A repository whose name, place and version are written in one line each. -/
structure Plain (location : String) (s : State) : Prop where
  fqrn : '\n' ∉ s.fqrn.toList
  location : '\n' ∉ location.toList
  version : '\n' ∉ s.version.toList

/-- A root catalog comes from one line of a manifest. -/
theorem feed_not_mem_rootCatalog {s : State} (h : s.Genuine) {hash : String}
    (hhash : s.manifest.rootCatalog = some hash) : '\n' ∉ hash.toList := by
  obtain ⟨content, hcontent⟩ := h.manifest
  have hsaid : Manifest.SaidBy _ s.manifest := Manifest.ofFields_eq_ok_iff.1 hcontent
  have hvalue := hsaid.rootCatalog.trans hhash
  rw [Manifest.get?_fields] at hvalue
  have hline := Manifest.isHeaderLine_of_mem_header (Manifest.mem_of_firstValue? hvalue)
  exact fun hmem => hline.1 (List.mem_cons_of_mem _ hmem)

theorem feed_not_mem_unsignedText (n : UInt64) : '\n' ∉ (Manifest.unsignedText n).toList := by
  unfold Manifest.unsignedText
  rw [String.toList_ofList]
  intro hmem
  exact absurd (List.all_eq_true.1 (Numeral.all_isDigit_digits n.toNat) _ hmem) (by decide)

theorem feed_not_mem_name (k : Kind) : '\n' ∉ k.name.toList := by cases k <;> decide

/-- A last replication is a time, or the word for none. -/
theorem feed_not_mem_replicationText (s : State) : '\n' ∉ (replicationText s).toList := by
  unfold replicationText
  split
  · exact feed_not_mem_timeText _
  · decide

/-- A running replication is a time, or the word for none. -/
theorem feed_not_mem_replicatingText (s : State) : '\n' ∉ (replicatingText s).toList := by
  unfold replicatingText
  split
  · rw [String.toList_append, List.mem_append]
    rintro (hmem | hmem)
    · exact absurd hmem (by decide)
    · exact feed_not_mem_timeText _ hmem
  · decide

/-- Every field of a report fits into a line. -/
theorem isField_of_mem {location : String} {s : State} (h : s.Genuine) (hplain : Plain location s)
    {e : String × String} (he : e ∈ infoFields location s) : IsField e := by
  obtain ⟨label, value⟩ := e
  rw [infoFields_eq, Keyed.mem_present_iff] at he
  have hlabel : label ∈ (shown location s).map Prod.fst := List.mem_map_of_mem he
  refine ⟨hlabel, ?_⟩
  simp only [shown, List.mem_cons, Prod.mk.injEq, List.not_mem_nil, or_false] at he
  rcases he with ⟨-, hv⟩ | ⟨-, hv⟩ | ⟨-, hv⟩ | ⟨-, hv⟩ | ⟨-, hv⟩ | ⟨-, hv⟩ | ⟨-, hv⟩ | ⟨-, hv⟩ |
    ⟨-, hv⟩
  · exact Option.some.inj hv ▸ hplain.fqrn
  · exact Option.some.inj hv ▸ hplain.location
  · obtain rfl := Option.some.inj hv
    exact feed_not_mem_name s.kind
  · exact Option.some.inj hv ▸ hplain.version
  · obtain ⟨n, -, rfl⟩ := Option.map_eq_some_iff.1 hv.symm
    exact feed_not_mem_unsignedText n
  · exact feed_not_mem_rootCatalog h hv.symm
  · obtain ⟨t, -, rfl⟩ := Option.map_eq_some_iff.1 hv.symm
    exact feed_not_mem_timeText t
  · exact Option.some.inj hv ▸ feed_not_mem_replicationText s
  · exact Option.some.inj hv ▸ feed_not_mem_replicatingText s

/-- A report has six fields, and one for each value that is there and need not be. -/
theorem length_infoFields (location : String) (s : State) :
    (infoFields location s).length =
      6 + [s.manifest.revision.isSome, s.manifest.rootCatalog.isSome,
        (published? s.manifest).isSome].count true := by
  have hpublished : publishedText s.manifest = (published? s.manifest).map timeText := rfl
  unfold infoFields
  rw [hpublished]
  cases s.manifest.revision <;> cases s.manifest.rootCatalog <;>
    cases published? s.manifest <;> rfl

/-- **A report loses nothing of what it shows.** Two repositories whose names, places and versions are
written in one line each have the same report exactly if these three are the same, their kinds, their
revisions, their root catalogs, their times of publication as far as they can be shown, and to the
second the times of their replications. There is a line for each of six of these in any case, and one
more for the revision, the root catalog and the time of publication, if there is one that can be
shown: any number of seconds between the first and the last that there are. -/
theorem info_eq_info_iff {location location' : String} {s s' : State} (h : s.Genuine)
    (h' : s'.Genuine) (hplain : Plain location s) (hplain' : Plain location' s') :
    (info location s = info location' s' ↔
      s.fqrn = s'.fqrn ∧ location = location' ∧ s.kind = s'.kind ∧ s.version = s'.version ∧
        s.manifest.revision = s'.manifest.revision ∧
        s.manifest.rootCatalog = s'.manifest.rootCatalog ∧
        published? s.manifest = published? s'.manifest ∧ replicated? s = replicated? s' ∧
        s.replicatingSince.map Instant.whole = s'.replicatingSince.map Instant.whole) ∧
    (∃ lines, info location s = unlines lines ∧ (∀ line ∈ lines, '\n' ∉ line.toList) ∧
      lines.length = 6 + [s.manifest.revision.isSome, s.manifest.rootCatalog.isSome,
        (published? s.manifest).isSome].count true) ∧
    ∀ n : Int64, s.manifest.lastModified = some n → published? s.manifest =
      if -8334601228800 ≤ n.toInt ∧ n.toInt ≤ 8210266876799 then some ⟨n.toInt, 0⟩ else none := by
  have hfields : ∀ e ∈ infoFields location s, IsField e := fun e he => isField_of_mem h hplain he
  have hfields' : ∀ e ∈ infoFields location' s', IsField e := fun e he =>
    isField_of_mem h' hplain' he
  have hinfo : info location s = info location' s' ↔ shown location s = shown location' s' := by
    constructor
    · intro heq
      exact shown_of_infoFields_eq (info_fields_injective hfields hfields' heq)
    · intro heq
      unfold info
      rw [infoFields_eq, infoFields_eq, heq]
  refine ⟨?_, ⟨(infoFields location s).map line, rfl, ?_, ?_⟩, ?_⟩
  · rw [hinfo, ← replicationText_eq_iff h h', ← replicatingText_eq_iff h h', ← publishedText_eq_iff]
    simp only [shown, List.cons.injEq, Prod.mk.injEq, Option.some.injEq, true_and, and_true,
      Kind.name_injective.eq_iff, (Option.map_injective unsignedText_injective).eq_iff]
  · intro l hl
    obtain ⟨e, he, rfl⟩ := List.mem_map.1 hl
    exact (hfields e he).feed_not_mem
  · rw [List.length_map, length_infoFields]
  · intro n hn
    unfold published?
    rw [hn, Option.bind_some, Instant.ofSeconds?_eq]

/-- The header of a manifest that was published at a time which cannot be shown. -/
def farFuture : Bytes := "Nx.org\nC0a\nS12\nT9223372036854775807\nAoff\n".utf8

/-- A replica while it is replicated again, in a leap second; `nanos` is when in its second it was
replicated before. -/
def replica (nanos : Nat) : State where
  fqrn := "x.org"
  kind := .stratum1
  version := "2.11"
  manifest := {
    repositoryName := "x.org", rootCatalog := some "0a", rootHash := none, rootCatalogSize := none
    certificate := none, historyDatabase := none, lastModified := some 9223372036854775807
    ttl := none, revision := some 12, garbageCollectable := false
    other := ⟨[('A', "off")], by decide⟩ }
  lastReplication := ⟨1420070400, nanos⟩
  replicatingSince := some ⟨1483228799, 1500000000⟩

theorem info_eq_info_iff_replica :
    info "/srv/x" (replica 0) = info "/srv/x" (replica 5) ∧
      info "/srv/x" (replica 0) ≠ info "/srv/y" (replica 0) ∧
      published? (replica 0).manifest = none := by
  have hgenuine : ∀ nanos < secondNanos, (replica nanos).Genuine := by
    intro nanos hnanos
    refine { manifest := ⟨farFuture, ?_⟩, lastReplication := ?_, replicatingSince := ?_ }
    · show Manifest.ofBytes farFuture = .ok (replica 0).manifest
      decide +kernel
    · refine { inRange := (Instant.inRange_iff _ _).2 (by decide), nanos_lt := ?_, leap := ?_ }
      · exact Nat.lt_trans hnanos (by decide)
      · intro hleap
        exact absurd (of_decide_eq_true hleap) (Nat.not_le_of_lt hnanos)
    · intro t ht
      obtain rfl := Option.some.inj ht
      exact { inRange := (Instant.inRange_iff _ _).2 (by decide), nanos_lt := by decide
              leap := fun _ => by decide }
  have hplain : ∀ location nanos, '\n' ∉ location.toList → Plain location (replica nanos) :=
    fun location nanos hlocation =>
      { fqrn := show '\n' ∉ "x.org".toList by decide, location := hlocation
        version := show '\n' ∉ "2.11".toList by decide }
  have hzero := hgenuine 0 (by decide)
  have hx := hplain "/srv/x" 0 (by decide)
  obtain ⟨hsame, -, hpublished⟩ :=
    info_eq_info_iff hzero (hgenuine 5 (by decide)) hx (hplain "/srv/x" 5 (by decide))
  obtain ⟨hother, -, -⟩ := info_eq_info_iff hzero hzero hx (hplain "/srv/y" 0 (by decide))
  refine ⟨hsame.2 ?_, ?_, ?_⟩
  · exact ⟨rfl, rfl, rfl, rfl, rfl, rfl, rfl, by decide, rfl⟩
  · intro heq
    exact absurd (hother.1 heq).2.1 (by decide)
  · rw [hpublished _ rfl]
    decide

end Report

end Stratum
