import Mathlib.Data.List.ReduceOption
import Stratum.Proofs.Findings
import Stratum.Report

/-!
# Whether there has been a replication

A state keeps the time of the last replication and nothing beside it; that there was none is said by
a time as well, the epoch. So the marker of the last replication is what counts, but for one time that
it can hold: a marker at the epoch, in whatever zone it is written, is the same as none. All that is
shown of the last replication follows the state, and says "never" of both.

> `replicated_iff`: when a repository counts as replicated, and when reports say "never".
> `not_replicated_epoch`: a marker at the epoch is there, and makes no difference.
-/

namespace Stratum

open Text

/-! ## What reports say -/

namespace Report

variable {s : State} {location : String}

/-- A line that says in the end that there was no replication, whether one is running or not. -/
def SaysNever (line : String) : Prop :=
  ∃ front, line = front ++ "last replication: never" ∨
    line = front ++ "last replication: never (replicating)"

/-- A time is shown with its zone behind it. -/
theorem getLast?_timeText (t : Time.Instant) : (timeText t).toList.getLast? = some 'C' := by
  unfold timeText
  rw [String.toList_ofList, List.getLast?_append]
  rfl

theorem timeText_ne_never (t : Time.Instant) : timeText t ≠ "never" := by
  intro h
  have hlast := getLast?_timeText t
  rw [h] at hlast
  exact absurd hlast (by decide)

theorem replicationText_eq_never_iff :
    replicationText s = "never" ↔ s.hasBeenReplicated = false := by
  unfold replicationText
  cases s.hasBeenReplicated with
  | false => simp
  | true => simp [timeText_ne_never]

theorem mem_infoFields_never_iff :
    ("Last replication", "never") ∈ infoFields location s ↔ s.hasBeenReplicated = false := by
  rw [← replicationText_eq_never_iff]
  unfold infoFields
  rw [List.reduceOption_mem_iff]
  simp [eq_comm]

/-- A line of the table ends with what it says of the last replication, but for a remark. -/
theorem summary_eq (s : State) : ∃ front, summary s = front ++ "last replication: " ++
    replicationText s ++ (if s.isReplicating then " (replicating)" else "") := by
  refine ⟨fill 32 s.fqrn ++ " " ++ s.kind.name ++ " " ++ fill 10 s.version ++ " ", ?_⟩
  unfold summary
  rw [show " last replication: " = " " ++ "last replication: " from rfl]
  simp only [String.append_assoc]

/-- A line that says when the last replication was does not say that there was none. -/
theorem not_saysNever_of_time {front : String} (t : Time.Instant) (running : Bool) :
    ¬SaysNever (front ++ timeText t ++ (if running then " (replicating)" else "")) := by
  intro h
  have htime : (front ++ timeText t).toList.getLast? = some 'C' :=
    getLast?_toList_append (getLast?_timeText t)
  obtain ⟨other, h⟩ := h
  have hnever : (other ++ "last replication: never").toList.getLast? = some 'r' :=
    getLast?_toList_append (by decide)
  have hremark : ∀ line : String, (line ++ " (replicating)").toList.getLast? = some ')' := by
    intro line
    exact getLast?_toList_append (by decide)
  rw [show "last replication: never (replicating)" = "last replication: never" ++ " (replicating)"
    from rfl, ← String.append_assoc] at h
  cases running with
  | false =>
    rw [if_neg (by decide), String.append_empty] at h
    rcases h with h | h
    · rw [h, hnever] at htime
      cases htime
    · rw [h, hremark] at htime
      cases htime
  | true =>
    rw [if_pos rfl] at h
    rcases h with h | h
    · have hlast := hremark (front ++ timeText t)
      rw [h, hnever] at hlast
      cases hlast
    · -- The remark stands on both sides, and before it is the time.
      rw [(String.append_left_inj _).1 h, hnever] at htime
      cases htime

theorem saysNever_summary_iff : SaysNever (summary s) ↔ s.hasBeenReplicated = false := by
  obtain ⟨front, hsummary⟩ := summary_eq s
  rw [hsummary, ← replicationText_eq_never_iff]
  constructor
  · intro h
    by_contra hnever
    have hreplicated : s.hasBeenReplicated = true :=
      Bool.of_not_eq_false fun hnot => hnever (replicationText_eq_never_iff.2 hnot)
    have htime : replicationText s = timeText s.lastReplication := by
      unfold replicationText
      rw [if_pos hreplicated]
    rw [htime] at h
    exact not_saysNever_of_time _ _ h
  · intro h
    have hnever : front ++ "last replication: " ++ "never" = front ++ "last replication: never" :=
      String.append_assoc ..
    rw [h, hnever]
    refine ⟨front, ?_⟩
    cases s.isReplicating with
    | false => exact Or.inl (String.append_empty)
    | true => exact Or.inr (String.append_assoc ..)

/-- A report whose last line but one says that there was no replication. -/
def InfoSaysNever (s : State) (report : String) : Prop :=
  ∃ front, report =
    front ++ unlines ["Last replication: never", labelled "Replicating" (replicatingText s)]

/-- Two lines are written with a line feed between them and one behind. -/
theorem unlines_pair (a b : String) : unlines [a, b] = a ++ ("\n" ++ b ++ "\n") := by
  simp [unlines, String.join, String.append_assoc]

/-- A report ends with what it says of the last replication and of the one that is running. -/
theorem info_eq (location : String) (s : State) : ∃ front, info location s = front ++
    unlines [labelled "Last replication" (replicationText s),
      labelled "Replicating" (replicatingText s)] := by
  obtain ⟨known, hknown⟩ : ∃ known, infoFields location s = known ++
      [("Last replication", replicationText s), ("Replicating", replicatingText s)] :=
    ⟨_, List.reduceOption_append
      [some ("Repository", s.fqrn), some ("Location", location), some ("Type", s.kind.name),
        some ("Version", s.version),
        s.manifest.revision.map fun n => ("Revision", Manifest.unsignedText n),
        s.manifest.rootCatalog.map ("Root catalog", ·),
        (publishedText s.manifest).map ("Published", ·)] [some _, some _]⟩
  refine ⟨unlines (known.map fun e => labelled e.1 e.2), ?_⟩
  unfold info unlines
  rw [hknown, List.map_append, List.map_append, String.join_append]
  rfl

/-- A report says so exactly if there was none. -/
theorem infoSaysNever_info_iff :
    InfoSaysNever s (info location s) ↔ s.hasBeenReplicated = false := by
  obtain ⟨front, hinfo⟩ := info_eq location s
  have hlabel (value : String) :
      labelled "Last replication" value = "Last replication: " ++ value := rfl
  rw [← replicationText_eq_never_iff, InfoSaysNever, hinfo, hlabel]
  constructor
  · rintro ⟨other, h⟩
    by_contra hnever
    have htime : replicationText s = timeText s.lastReplication :=
      if_pos (Bool.of_not_eq_false fun hnot => hnever (replicationText_eq_never_iff.2 hnot))
    -- The last line is the same, and before it is the time.
    have hends : front ++ ("Last replication: " ++ replicationText s) =
        other ++ "Last replication: never" := by
      rw [unlines_pair, unlines_pair] at h
      generalize "\n" ++ labelled "Replicating" (replicatingText s) ++ "\n" = back at h
      refine (String.append_left_inj back).1 ?_
      rw [String.append_assoc, h, String.append_assoc]
    have hc : (front ++ ("Last replication: " ++ replicationText s)).toList.getLast? = some 'C' := by
      rw [htime]
      exact getLast?_toList_append (getLast?_toList_append (getLast?_timeText _))
    have hr : (other ++ "Last replication: never").toList.getLast? = some 'r' :=
      getLast?_toList_append (by decide)
    rw [hends, hr] at hc
    cases hc
  · intro hnever
    rw [hnever]
    exact ⟨front, rfl⟩

end Report

/-! ## What the marker says -/

namespace Source

open Time

variable {s : Source} {layout : Layout} {declared : Kind} {version : String} {state : State}

/-- A state that is found is the one that the artifacts show. -/
theorem shows_of_discover (h : (s.discover layout declared version).outcome = .ok state) :
    s.Shows layout declared version state := by
  have hdiscovers := discovers s layout declared version
  generalize s.discover layout declared version = found at h hdiscovers
  cases hdiscovers with
  | found _ shows =>
    cases h
    exact shows
  | stopped => cases h

/-- The state is that of a repository without replication if the marker is missing, or if it holds
the epoch. -/
theorem Shows.not_replicated_iff (h : s.Shows layout declared version state) :
    state.hasBeenReplicated = false ↔
      s.Lacks layout.lastReplicationName ∨
        s.Dates layout.lastReplicationName (some Instant.epoch) := by
  obtain ⟨last, hlast, htime⟩ := h.lastReplication
  have hepoch : state.hasBeenReplicated = false ↔ state.lastReplication = Instant.epoch :=
    bne_eq_false_iff_eq
  rw [hepoch, htime]
  cases last with
  | none =>
    cases hlast with
    | missing hlacks => exact iff_of_true rfl (Or.inl hlacks)
  | some t =>
    constructor
    · intro heq
      exact Or.inr (heq ▸ hlast)
    · intro hor
      rcases hor with hlacks | hdates
      · cases hlast.unique (.missing hlacks)
      · exact Option.some.inj (hlast.unique hdates)

/-- **A repository counts as replicated exactly if it has the marker of the last replication, and the
marker holds another time than the epoch.** The table and the report on a repository say "never"
exactly if it has no such marker, or one that holds the epoch. -/
theorem replicated_iff (h : (s.discover layout declared version).outcome = .ok state) :
    (state.hasBeenReplicated = true ↔
      ∃ t, s.Dates layout.lastReplicationName (some t) ∧ t ≠ Instant.epoch) ∧
    (Report.SaysNever (Report.summary state) ↔
      s.Lacks layout.lastReplicationName ∨
        s.Dates layout.lastReplicationName (some Instant.epoch)) ∧
    (("Last replication", "never") ∈ Report.infoFields s.location state ↔
      s.Lacks layout.lastReplicationName ∨
        s.Dates layout.lastReplicationName (some Instant.epoch)) ∧
    (Report.InfoSaysNever state (Report.info s.location state) ↔
      s.Lacks layout.lastReplicationName ∨
        s.Dates layout.lastReplicationName (some Instant.epoch)) := by
  have hshows := shows_of_discover h
  have hnot := hshows.not_replicated_iff
  refine ⟨?_, Report.saysNever_summary_iff.trans hnot, Report.mem_infoFields_never_iff.trans hnot,
    Report.infoSaysNever_info_iff.trans hnot⟩
  obtain ⟨last, hlast, htime⟩ := hshows.lastReplication
  constructor
  · intro hreplicated
    cases last with
    | none =>
      rw [State.hasBeenReplicated_iff, htime] at hreplicated
      exact absurd rfl hreplicated
    | some t =>
      rw [State.hasBeenReplicated_iff, htime] at hreplicated
      exact ⟨t, hlast, hreplicated⟩
  · intro hmarker
    obtain ⟨t, hdates, hne⟩ := hmarker
    rw [State.hasBeenReplicated_iff, htime, hlast.unique hdates]
    exact hne

/-- A repository in memory whose marker of the last replication holds this text. -/
def marked (text : String) : Source := memory "memory"
  [(".cvmfspublished", "Na.org\n".utf8), (".cvmfs_last_snapshot", text.utf8)]

/-- The first moment after the epoch is a replication. -/
theorem replicated_iff_nanosecond :
    ∃ state, ((marked "1970-01-01T00:00:00.000000001Z\n").discover {} .unknown "5").outcome =
        .ok state ∧
      (∃ t, (marked "1970-01-01T00:00:00.000000001Z\n").Dates ".cvmfs_last_snapshot" (some t) ∧
        t ≠ Instant.epoch) ∧
      ¬Report.SaysNever (Report.summary state) := by
  have hfound : ((marked "1970-01-01T00:00:00.000000001Z\n").discover {} .unknown "5").outcome.map
      State.hasBeenReplicated = .ok true := by
    decide +kernel
  obtain ⟨state, hstate, hreplicated⟩ := Outcome.map_eq_ok_iff.1 hfound
  obtain ⟨hiff, -⟩ := replicated_iff hstate
  refine ⟨state, hstate, hiff.1 hreplicated, fun hnever => ?_⟩
  rw [Report.saysNever_summary_iff, hreplicated] at hnever
  cases hnever

/-- A marker at the epoch is there, as the kind of the repository shows, and yet the repository does
not count as replicated. -/
theorem not_replicated_epoch :
    (∃ content, (marked "1970-01-01T01:00:00+01:00\n").retrieve ".cvmfs_last_snapshot" =
        .ok content) ∧
      ∃ state, ((marked "1970-01-01T01:00:00+01:00\n").discover {} .unknown "5").outcome =
          .ok state ∧
        state.kind = .stratum1 ∧ state.hasBeenReplicated = false ∧
        Report.SaysNever (Report.summary state) ∧
        ("Last replication", "never") ∈ Report.infoFields "memory" state ∧
        Report.InfoSaysNever state (Report.info "memory" state) := by
  have hfound : ((marked "1970-01-01T01:00:00+01:00\n").discover {} .unknown "5").outcome.map
      (fun state => (state.kind, state.hasBeenReplicated)) = .ok (.stratum1, false) := by
    decide +kernel
  obtain ⟨state, hstate, hparts⟩ := Outcome.map_eq_ok_iff.1 hfound
  obtain ⟨hkind, hreplicated⟩ := Prod.mk.inj hparts
  exact ⟨⟨_, rfl⟩, state, hstate, hkind, hreplicated, Report.saysNever_summary_iff.2 hreplicated,
    Report.mem_infoFields_never_iff.2 hreplicated, Report.infoSaysNever_info_iff.2 hreplicated⟩

end Source

end Stratum
