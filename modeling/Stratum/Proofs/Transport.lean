import Stratum.Proofs.LocalOpening
import Stratum.Proofs.RemoteOpening
import Stratum.Proofs.Tokens

/-!
# Transports

The same artifacts can be in a table in memory, in a directory of this machine, or on a server.
What it means that they are there is said for each transport in its own terms, by `Files.Holds`
and `Web.Serves`, and that a repository is of a kind by `Local.Declares` and `Web.Reports`. What
is learned of an artifact then does not depend on the transport, and so nothing does that is
learned of the repository:

> `alike_of_same_artifacts`: memory, a directory and a server show the same repository where they
> have the same artifacts.
-/

namespace Stratum

open Text

/-! ## Directories -/

/-- A directory has this content under a name, or nothing. -/
def Files.Holds (f : Files) (dir name : String) : Option Bytes → Prop
  | some content => f.read (Path.join dir name) = .ok content
  | none => f.contains (Path.join dir name) = false

/-- What can be read is there. -/
theorem Files.contains_of_read {f : Files} {path : String} {content : Bytes}
    (h : f.read path = .ok content) : f.contains path = true := by
  unfold Files.read at h
  unfold Files.contains
  cases hres : f.resolve path with
  | ok r => rfl
  | error e =>
    rw [hres] at h
    cases h

namespace Local

variable {f : Files} {layout : Layout} {fqrn root : String} {k : Kind}

/-- The configuration of a repository declares a kind, and a directory of this machine for its
artifacts; it may or may not say which version made the repository. -/
structure Declares (f : Files) (layout : Layout) (fqrn : String) (k : Kind) (root : String) :
    Prop where
  isDir : f.isDir (layout.confDir fqrn) = true
  kind : (confOf layout fqrn).read f kindField = .ok k.name
  storage : ∃ value scratchDir, (confOf layout fqrn).read f storageField = .ok value ∧
    StorageSpec.parse? value = some ⟨"local", scratchDir, root⟩
  version : ∃ version?, (confOf layout fqrn).readOptional f versionField = .ok version?

/-- Such a configuration is a good one. -/
theorem Declares.configure (h : Declares f layout fqrn k root) (known : k.isKnown = true) :
    ∃ version, configure f layout fqrn = .ok ⟨k, root, version⟩ := by
  obtain ⟨value, scratchDir, hvalue, hspec⟩ := h.storage
  obtain ⟨version?, hversion⟩ := h.version
  have hstorage : declaredStorage f (confOf layout fqrn) = .ok root := by
    unfold declaredStorage
    rw [hvalue, Outcome.ok_bind]
    unfold readStorage
    rw [hspec]
    rfl
  refine ⟨version?.getD layout.version, configure_eq_ok_iff.2 ⟨h.isDir, ?_, hstorage, ?_⟩⟩
  · exact declaredKind_eq_ok_iff.2 ⟨known, h.kind⟩
  · exact ⟨version?, hversion, rfl⟩

/-- What is learned of an artifact is what the directory has. -/
theorem content?_storage_of_holds {name : String} {content? : Option Bytes}
    (h : f.Holds root name content?) :
    (storage f fqrn root).content? name = .ok content? := by
  rw [content?_storage]
  cases content? with
  | none =>
    have hnone : f.contains (Path.join root name) = false := h
    rw [hnone, if_neg Bool.false_ne_true]
  | some content =>
    have hread : f.read (Path.join root name) = .ok content := h
    rw [Files.contains_of_read hread, if_pos rfl, hread]
    rfl

end Local

/-! ## Servers -/

/-- The answer to a request for a URL, after all redirects. -/
def Web.Answers (w : Web) (m : Method) (url : String) (r : Response) : Prop :=
  (Endpoint.request w m url).outcome = .ok r

/-- A server has this content under a name below a URL, and sends the whole of it, or it answers
that there is nothing. -/
def Web.Serves (w : Web) (base name : String) : Option Bytes → Prop
  | some content => ∃ r, w.Answers .get (base ++ "/" ++ name) r ∧ r.status = 200 ∧
      r.body = content ∧ r.cut = false
  | none => ∃ r, w.Answers .get (base ++ "/" ++ name) r ∧ r.status = 404

/-- The control interface below a URL is there, and reports a kind. -/
structure Web.Reports (w : Web) (base : String) (k : Kind) : Prop where
  probe : ∃ r, w.Answers .head (base ++ "/control/info") r ∧ r.status = 200
  info : ∃ r info, w.Answers .get (base ++ "/control/info") r ∧ r.status = 200 ∧ r.cut = false ∧
    Json.decode? Control.Info.ofJson? r.body = some info ∧ info.kind = k.name

namespace Endpoint

variable {w : Web} {e : Endpoint} {k : Kind}

/-- A kind that is reported is what the server is asked for and says. -/
theorem identify_of_reports (hprobed : e.probed = none) (connector : e.connector = "control")
    (h : w.Reports e.base k) :
    ∃ version, (e.identify w).outcome = .ok (k, version, e.probedAs true) := by
  have hurl : e.controlUrl "info" = e.base ++ "/control/info" := by
    unfold controlUrl
    rw [connector, String.append_assoc, String.append_assoc, String.append_assoc]
    exact congrArg (e.base ++ ·) (by decide)
  obtain ⟨probe, hprobe, hstatus⟩ := h.probe
  obtain ⟨r, info, hget, hok, hcut, hread, hkind⟩ := h.info
  have hrefusal : r.isRefusal = false := by
    unfold Response.isRefusal
    rw [hok]
    rfl
  have hreply := readReply_eq_ok_iff.2 ⟨hrefusal, hcut, hread⟩
  refine ⟨info.version, ?_⟩
  unfold Web.Answers at hprobe hget
  rw [outcome_identify hprobed, hurl, hprobe, Outcome.ok_bind, if_pos hstatus, hget,
    Outcome.ok_bind, hreply]
  simp only [Except.map, hkind, Kind.ofName, Kind.ofName?_name, Option.getD_some]

/-- What is learned of an artifact is what the server has. -/
theorem content?_source_of_serves {name : String} {content? : Option Bytes}
    (h : w.Serves e.base name content?) : (e.source w).content? name = .ok content? := by
  rw [content?_source]
  unfold artifactUrl
  cases content? with
  | none =>
    obtain ⟨r, hget, hstatus⟩ := h
    unfold Web.Answers at hget
    rw [hget, Outcome.ok_bind, readArtifact_of_notFound hstatus]
  | some content =>
    obtain ⟨r, hget, hstatus, rfl, hcut⟩ := h
    unfold Web.Answers at hget
    rw [hget, Outcome.ok_bind, readArtifact_of_ok hstatus hcut]

/-- The stock path of the control interface is the one that requests go to. -/
theorem connector_of_ofUrl {url : String} {layout : Layout} (h : ofUrl url layout = .ok e)
    (connector : layout.connector = "control") : e.connector = "control" := by
  unfold ofUrl at h
  split at h
  next => cases h
  next =>
    cases h
    rw [connector]
    show String.ofList (trimEnd ("control".toList.dropWhile isSlash)) = "control"
    decide

end Endpoint

/-! ## The same artifacts -/

/-- **The transport does not matter.** Let a configuration declare a kind and a directory, let a
server report the same kind, and let directory and server have the artifacts of a table, whatever
these hold. Then the table, the repository of this machine and the one on the web have the same
state, or cannot be opened for the same reason; of a missing repository each says where it was
looked for. -/
theorem alike_of_same_artifacts {f : Files} {w : Web} {layout : Layout} {fqrn root url : String}
    {k : Kind} {e : Endpoint} {table : List (String × Bytes)} (known : k.isKnown = true)
    (connector : layout.connector = "control") (hconf : Local.Declares f layout fqrn k root)
    (hurl : Endpoint.ofUrl url layout = .ok e) (hreport : w.Reports e.base k)
    (hfiles : ∀ name ∈ layout.artifactNames, f.Holds root name (table.lookup name))
    (hweb : ∀ name ∈ layout.artifactNames, w.Serves e.base name (table.lookup name))
    (location version : String) :
    let memory := ((Source.memory location table).discover layout k version).outcome
    let home := (Local.load f layout fqrn).map Local.state
    let remote := (Remote.connect w layout url).outcome.map Remote.state
    Alike location root memory home ∧ Alike location e.base memory remote ∧
      Alike root e.base home remote := by
  intro memory home remote
  have hmemory : ∀ name ∈ layout.artifactNames,
      (Source.memory location table).content? name = .ok (table.lookup name) :=
    fun name _ => Source.content?_memory location table name
  have hhome : Alike location root memory home := by
    obtain ⟨localVersion, hsetup⟩ := hconf.configure known
    have hstorage : ∀ name ∈ layout.artifactNames,
        (Local.storage f fqrn root).content? name = .ok (table.lookup name) :=
      fun name hname => Local.content?_storage_of_holds (hfiles name hname)
    have halike := (Source.alike_discover hmemory hstorage k version localVersion).rename fqrn
    have hload : home = ((Local.storage f fqrn root).discover layout k localVersion).outcome.map
        fun s => { s with fqrn } := by
      show (Local.load f layout fqrn).map Local.state = _
      rw [Local.load_eq, hsetup, Outcome.ok_bind]
      show Except.map Local.state (Except.map _
        ((Local.storage f fqrn root).discover layout k localVersion).outcome) = _
      cases ((Local.storage f fqrn root).discover layout k localVersion).outcome <;> rfl
    rw [hload]
    exact halike
  have hremote : Alike location e.base memory remote := by
    have hprobed := Remote.probed_of_ofUrl hurl
    obtain ⟨webVersion, htold⟩ := Endpoint.identify_of_reports hprobed
      (Endpoint.connector_of_ofUrl hurl connector) hreport
    have hsource : ∀ name ∈ layout.artifactNames,
        (e.source w).content? name = .ok (table.lookup name) :=
      fun name hname => Endpoint.content?_source_of_serves (hweb name hname)
    have hconnect : remote = ((e.source w).discover layout k webVersion).outcome := by
      show (Remote.connect w layout url).outcome.map Remote.state = _
      rw [Remote.outcome_connect, hurl, Outcome.ok_bind, htold, Outcome.ok_bind,
        Endpoint.source_probedAs]
      cases ((e.source w).discover layout k webVersion).outcome <;> rfl
    rw [hconnect]
    exact Source.alike_discover hmemory hsource k version webVersion
  exact ⟨hhome, hremote, hhome.symm.trans hremote⟩

/-- The artifacts of a stratum 0 that has been replicated once. -/
def twinTable : List (String × Bytes) :=
  [(".cvmfspublished", "Na.org\n--\n".utf8),
    (".cvmfs_last_snapshot", "2020-01-01T00:00:00Z\n".utf8)]

/-- A machine that has these artifacts. -/
def twinFiles : Files where
  entries :=
    [(.of ["etc"], .dir), (.of ["etc", "cvmfs"], .dir),
      (.of ["etc", "cvmfs", "repositories.d"], .dir),
      (.of ["etc", "cvmfs", "repositories.d", "a.org"], .dir),
      (.of ["etc", "cvmfs", "repositories.d", "a.org", "server.conf"],
        .file "CVMFS_REPOSITORY_TYPE=stratum0\nCVMFS_UPSTREAM_STORAGE=local,/tmp,/srv/a.org\n".utf8),
      (.of ["srv"], .dir), (.of ["srv", "a.org"], .dir)] ++
    twinTable.map fun a => (Route.of ["srv", "a.org", a.1], Entry.file a.2)
  cwd := []
  nodup := by decide +kernel
  proper := by decide +kernel

/-- What a server says of itself that has them too. -/
def twinInfo : Bytes := "\x7b\"type\":\"stratum0\",\"version\":\"5\"\x7d".utf8

/-- That server. -/
def twinWeb : Web where
  routes :=
    ⟨.get, .exactly "http://h/a.org/control/info", { body := twinInfo }⟩ ::
      twinTable.map fun a => ⟨.get, .exactly ("http://h/a.org/" ++ a.1), { body := a.2 }⟩

/-- Table, machine and server show the same repository. -/
theorem alike_of_same_artifacts_twin :
    let memory := ((Source.memory "memory" twinTable).discover {} .stratum0 "5").outcome
    let home := (Local.load twinFiles {} "a.org").map Local.state
    let remote := (Remote.connect twinWeb {} "http://h/a.org").outcome.map Remote.state
    Alike "memory" "/srv/a.org" memory home ∧ Alike "memory" "http://h/a.org" memory remote ∧
      Alike "/srv/a.org" "http://h/a.org" home remote := by
  have hconf : Local.Declares twinFiles {} "a.org" .stratum0 "/srv/a.org" := by
    refine ⟨?_, ?_, ⟨"local,/tmp,/srv/a.org", "/tmp", ?_, ?_⟩, none, ?_⟩ <;> decide +kernel
  have hurl : Endpoint.ofUrl "http://h/a.org" {} = .ok ⟨"http://h/a.org", "control", none⟩ := by
    decide +kernel
  have hreport : twinWeb.Reports "http://h/a.org" .stratum0 := by
    have hprobe : (Endpoint.request twinWeb .head "http://h/a.org/control/info").outcome.map
        (·.status) = .ok 200 := by decide +kernel
    have hinfo : (Endpoint.request twinWeb .get "http://h/a.org/control/info").outcome.map
        (fun r => (r.status, r.cut, r.body)) = .ok (200, false, twinInfo) := by decide +kernel
    have hread : Json.decode? Control.Info.ofJson? twinInfo = some ⟨"stratum0", "5"⟩ := by
      unfold Json.decode? Json.ofBytes?
      rw [← Json.tokensWithin?_eq (Nat.le_refl _)]
      decide +kernel
    obtain ⟨probe, hhead, hstatus⟩ := Outcome.map_eq_ok_iff.1 hprobe
    obtain ⟨r, hget, hr⟩ := Outcome.map_eq_ok_iff.1 hinfo
    obtain ⟨hok, hcut, hbody⟩ : r.status = 200 ∧ r.cut = false ∧ r.body = _ := by simpa using hr
    exact ⟨⟨probe, hhead, hstatus⟩, r, _, hget, hok, hcut, hbody ▸ hread, rfl⟩
  have hfiles : ∀ name ∈ ({} : Layout).artifactNames,
      twinFiles.Holds "/srv/a.org" name (twinTable.lookup name) := by
    simp only [Layout.artifactNames, List.forall_mem_cons, List.not_mem_nil]
    refine ⟨?_, ?_, ?_, fun _ h => h.elim⟩
    · show twinFiles.read _ = .ok _
      decide +kernel
    · show twinFiles.read _ = .ok _
      decide +kernel
    · show twinFiles.contains _ = false
      decide +kernel
  have hweb : ∀ name ∈ ({} : Layout).artifactNames,
      twinWeb.Serves "http://h/a.org" name (twinTable.lookup name) := by
    have served (name : String) (content : Bytes)
        (h : (Endpoint.request twinWeb .get ("http://h/a.org" ++ "/" ++ name)).outcome.map
          (fun r => (r.status, r.body, r.cut)) = .ok (200, content, false)) :
        twinWeb.Serves "http://h/a.org" name (some content) := by
      obtain ⟨r, hget, hr⟩ := Outcome.map_eq_ok_iff.1 h
      exact ⟨r, hget, by simpa using hr⟩
    simp only [Layout.artifactNames, List.forall_mem_cons, List.not_mem_nil]
    refine ⟨served _ _ ?_, served _ _ ?_, ?_, fun _ h => h.elim⟩
    · decide +kernel
    · decide +kernel
    · have hgone : (Endpoint.request twinWeb .get
          "http://h/a.org/.cvmfs_is_snapshotting").outcome.map (·.status) = .ok 404 := by
        decide +kernel
      exact Outcome.map_eq_ok_iff.1 hgone
  exact alike_of_same_artifacts rfl rfl hconf hurl hreport hfiles hweb "memory" "5"

end Stratum
