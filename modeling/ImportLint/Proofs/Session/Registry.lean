import ImportLint.Proofs.Session.Operations

/-!
# Sessions — one for each config, one list for each file

A registry makes a session at the first request for a config and keeps it; a session makes a list
of faults at the first request for a file and keeps it until the file is released.  Both keep
nothing of a request that fails.  Meanwhile configs and sources are written, fail, and can be
read again.

* `Registry.Call`, `Registry.put`: what a registry and its sessions are asked.
* `Registry.put_cases`: all that a call can do to a registry.
* `Registry.Sound`: what holds of a registry at every moment of a run.
* `Session.SameElsewhere`: what a session knows of all files but one is as it was.
* `Session.Forgotten`: what a session knew of a file, it does not know any more.
* `Registry.sessions_keep`: what is known of sessions during a run.
-/

namespace ImportLint

/-! ### What a session keeps -/

namespace Session

variable {σ ω : Type} {e : Engine σ ω} {view : FileView} {s : Session σ} {shared : ω}

/-- A session has a normalized config path, its snapshots stand for the paths that they are kept
for, it has one list of faults at most for each normalized path, and its lists are numbered. -/
structure Tidy (s : Session σ) : Prop where
  configPath : s.configPath.normalize = s.configPath
  snapshots : s.host.snapshots.WellFormed
  nodup : s.found.keys.Nodup
  keys : ∀ key ∈ s.found.keys, ∃ p : Path, key = p.normalize.components
  numbered : ∀ key kept, s.found.get? key = some kept → kept.id < s.made

theorem Tidy.operate (he : e.OnlyAsks) (hs : s.Tidy) (view : FileView) (shared : ω)
    (op : Operation) : (s.operate e view shared op).1.Tidy := by
  have hsnapshots : (s.operate e view shared op).1.host.snapshots.WellFormed :=
    operate_keeps he (P := fun h => h.snapshots.WellFormed)
      (fun h op hw => Host.wellFormed_operate view h hw op) hs.snapshots op
  have hconfig : (s.operate e view shared op).1.configPath.normalize =
      (s.operate e view shared op).1.configPath := by
    rw [configPath_operate]
    exact hs.configPath
  rcases found_operate e view s shared op with ⟨hf, hmade⟩ |
      ⟨file, kept, -, -, hid, hf, hmade⟩ | ⟨file, -, hf, hmade⟩
  · exact ⟨hconfig, hsnapshots, hf ▸ hs.nodup, hf ▸ hs.keys, by rw [hf, hmade]; exact hs.numbered⟩
  · refine ⟨hconfig, hsnapshots, hf ▸ Table.nodup_keys_insert hs.nodup _ _, ?_,
      fun key list h => ?_⟩
    · rw [hf, Table.keys_insert]
      intro key hkey
      rcases List.mem_cons.mp hkey with rfl | hkey
      · exact ⟨file, rfl⟩
      · exact hs.keys key (List.mem_filter.mp hkey).1
    · rw [hf, Table.get?_insert] at h
      rw [hmade]
      split at h
      · cases h
        exact Nat.lt_succ_of_le (Nat.le_of_eq hid)
      · exact Nat.lt_succ_of_lt (hs.numbered key list h)
  · refine ⟨hconfig, hsnapshots, hf ▸ Table.nodup_keys_erase hs.nodup _, ?_, fun key list h => ?_⟩
    · rw [hf, Table.keys_erase]
      intro key hkey
      exact hs.keys key (List.mem_filter.mp hkey).1
    · rw [hf, Table.get?_erase] at h
      rw [hmade]
      split at h
      · cases h
      · exact hs.numbered key list h

/-- A list of faults is kept until its file is released. -/
theorem found_operate_of_found {p : Path} {kept : Shared (List Diagnostic)}
    (hk : s.found.get? p.normalize.components = some kept) {op : Operation}
    (hop : ∀ file : Path, op = .release file → file.normalize ≠ p.normalize) :
    (s.operate e view shared op).1.found.get? p.normalize.components = some kept := by
  rcases found_operate e view s shared op with ⟨hf, -⟩ |
      ⟨file, kept', -, hnone, -, hf, -⟩ | ⟨file, rfl, hf, -⟩
  · rwa [hf]
  · rw [hf, Table.get?_insert, if_neg]
    · exact hk
    · intro e
      rw [← e, hk] at hnone
      cases hnone
  · rw [hf, Table.get?_erase, if_neg]
    · exact hk
    · exact fun e => hop file rfl (Path.Same.eq_of_normalize e).symm

/-- A list that is kept is the answer, and nothing changes. -/
theorem diagnostics_of_found {p : Path} {kept : Shared (List Diagnostic)}
    (hk : s.found.get? p.normalize.components = some kept) :
    s.diagnostics e view p shared = (.ok kept, s, shared) := by
  simp [Session.diagnostics, hk]

/-- An answer is kept. -/
theorem found_of_diagnostics {p : Path} {kept : Shared (List Diagnostic)}
    (h : (s.diagnostics e view p shared).1 = .ok kept) :
    (s.diagnostics e view p shared).2.1.found.get? p.normalize.components = some kept := by
  rcases ask_cases e view p s shared with ⟨known, hk, hrun⟩ |
      ⟨-, ⟨f, -, hrun⟩ | ⟨fresh, -, hrun⟩⟩
  · rw [hrun] at h ⊢
    cases h
    exact hk
  · rw [hrun] at h
    cases h
  · rw [hrun] at h ⊢
    cases h
    exact (Table.get?_insert ..).trans (if_pos rfl)

/-- A failure is not kept. -/
theorem found_of_error {p : Path} {f : LintError}
    (h : (s.diagnostics e view p shared).1 = .error f) :
    (s.diagnostics e view p shared).2.1.found = s.found := by
  rcases ask_cases e view p s shared with ⟨known, hk, hrun⟩ |
      ⟨-, ⟨f, -, hrun⟩ | ⟨fresh, -, hrun⟩⟩
  · rw [hrun]
  · rw [hrun]
  · rw [hrun] at h
    cases h

/-- What a session knows of all files but one is as it was: the lists of faults, the snapshots
and their texts, and all else that its host remembers. -/
structure SameElsewhere (file : Path) (s s' : Session σ) : Prop where
  found : ∀ p : Path, p.normalize ≠ file.normalize →
    s'.found.get? p.normalize.components = s.found.get? p.normalize.components
  current : ∀ p : Path, p.normalize ≠ file.normalize →
    s'.host.snapshots.current.get? p.normalize.components =
      s.host.snapshots.current.get? p.normalize.components
  snapshot : ∀ id, (s.host.snapshots.snapshot id).path ≠ file.normalize →
    s'.host.snapshots.snapshot id = s.host.snapshots.snapshot id
  resolutions : s'.host.resolutions = s.host.resolutions

/-- **A release concerns one file.** -/
theorem sameElsewhere_release (hs : s.Tidy) (e : Engine σ ω) (file : Path) (shared : ω) :
    SameElsewhere file s (s.release e file shared).2.1 := by
  have hfound : ∀ p : Path, p.normalize ≠ file.normalize →
      (s.found.erase file.normalize.components).get? p.normalize.components =
        s.found.get? p.normalize.components := by
    intro p hp
    rw [Table.get?_erase, if_neg (SnapshotTable.components_ne_of_normalize_ne hp)]
  have hsnapshots : (s.release e file shared).2.1.host.snapshots =
      (s.host.snapshots.dispose file.normalize).2 := rfl
  cases hid : s.host.snapshots.current.get? file.normalize.normalize.components with
  | none =>
      have hsame : (s.release e file shared).2.1.host.snapshots = s.host.snapshots := by
        simp [hsnapshots, SnapshotTable.dispose, hid]
      exact ⟨hfound, fun p _ => by rw [hsame], fun id _ => by rw [hsame], rfl⟩
  | some id =>
      have hdrop : (s.release e file shared).2.1.host.snapshots =
          s.host.snapshots.drop file.normalize id := by
        simp only [hsnapshots, SnapshotTable.dispose, hid]
        rfl
      have hpath := hs.snapshots.path_eq hid
      rw [Path.normalize_normalize] at hpath
      refine ⟨hfound, fun p hp => ?_, fun id' hid' => ?_, rfl⟩
      · rw [hdrop, SnapshotTable.drop, Path.normalize_normalize, Table.get?_erase,
          if_neg (SnapshotTable.components_ne_of_normalize_ne hp)]
      · have hne : id' ≠ id := by
          rintro rfl
          exact hid' hpath
        rw [hdrop]
        exact SnapshotTable.snapshot_load_of_ne _ hne none

/-- A session knows nothing of a file: it has neither a list of faults of it nor its snapshot, and
no list that it makes of it is one that it had before. -/
structure Forgotten (e : Engine σ ω) (file : Path) (s s' : Session σ) : Prop where
  found : s'.found.get? file.normalize.components = none
  known : s'.host.snapshots.known file = none
  anew : ∀ (view : FileView) (shared : ω) (p : Path) kept fresh,
    s.found.get? p.normalize.components = some kept →
      (s'.diagnostics e view file shared).1 = .ok fresh → fresh.id ≠ kept.id

/-- **A release forgets the file.** -/
theorem forgotten_release (hs : s.Tidy) (e : Engine σ ω) (file : Path) (shared : ω) :
    Forgotten e file s (s.release e file shared).2.1 where
  found := (Table.get?_erase ..).trans (if_pos rfl)
  known := by
    have hnone := (hs.snapshots.dispose file.normalize).1
    rwa [SnapshotTable.known_congr _ (Path.normalize_normalize file)] at hnone
  anew view shared' p kept fresh hkept hfresh := by
    have hold := hs.numbered _ kept hkept
    obtain ⟨known, hk, -⟩ | ⟨-, ⟨f, -, hrun⟩ | ⟨ds, -, hrun⟩⟩ :=
      ask_cases e view file (s.release e file shared).2.1 shared'
    · cases ((Table.get?_erase ..).trans (if_pos rfl)).symm.trans hk
    · rw [hrun] at hfresh
      cases hfresh
    · rw [hrun] at hfresh
      cases hfresh
      exact Ne.symm (Nat.ne_of_lt hold)

end Session

/-! ### Calls -/

namespace Registry

variable {σ ω : Type}

/-- What a registry is asked for, the session of a config, and what its sessions are asked. -/
inductive Call where
  | session (configPath projectRoot : Path)
  | operate (id : Nat) (op : Session.Operation)

/-- The registry with another state of one session. -/
def setSession (r : Registry σ) (id : Nat) (s : Session σ) : Registry σ :=
  { r with sessions := r.sessions.setIfInBounds id s }

/-- The registry with one more session. -/
def addSession (r : Registry σ) (s : Session σ) : Registry σ :=
  { r with
    sessions := r.sessions.push s
    byConfig := r.byConfig.insert s.configPath.components r.sessions.size }

/-- The registry after a call, whether it is answered or fails, and what engines share. -/
def put (e : Engine σ ω) (view : FileView) (m : Registry σ × ω) : Call → Registry σ × ω
  | .session configPath projectRoot => (m.1.session e view configPath projectRoot m.2).2
  | .operate id op =>
    match m.1.sessions[id]? with
    | none => m
    | some s =>
      let run := s.operate e view m.2 op
      (m.1.setSession id run.1, run.2)

variable {e : Engine σ ω} {view : FileView}

theorem sessions_setSession {r : Registry σ} {id : Nat} {old : Session σ}
    (hold : r.sessions[id]? = some old) (s : Session σ) (id' : Nat) :
    (r.setSession id s).sessions[id']? = if id' = id then some s else r.sessions[id']? := by
  obtain ⟨hlt, -⟩ := Array.getElem?_eq_some_iff.mp hold
  rw [setSession, Array.getElem?_setIfInBounds]
  by_cases h : id = id'
  · rw [if_pos h, if_pos h.symm, if_pos (h ▸ hlt)]
  · rw [if_neg h, if_neg (Ne.symm h)]

theorem sessions_addSession (r : Registry σ) (s : Session σ) (id : Nat) :
    (r.addSession s).sessions[id]? =
      if id = r.sessions.size then some s else r.sessions[id]? :=
  Array.getElem?_push

/-- What is asked of a session changes that session. -/
theorem sessions_operate {m : Registry σ × ω} {id : Nat} {s : Session σ}
    (hs : m.1.sessions[id]? = some s) (op : Session.Operation) (id' : Nat) :
    (put e view m (.operate id op)).1.sessions[id']? =
      if id' = id then some (s.operate e view m.2 op).1 else m.1.sessions[id']? := by
  simp only [put, hs]
  exact sessions_setSession hs _ id'

/-- The host that is made for a config. -/
def newHost (e : Engine σ ω) (view : FileView) (r : Registry σ) (projectRoot : Path)
    (config : ProjectConfig) : Host :=
  .new view config projectRoot.normalize r.globals (r.options.libDir.or e.bundledLibDir)

/-- **All that a request for a session can do**: there is one; or the config cannot be loaded, or
no engine can be made; or a session is made with the config as it is loaded. -/
theorem session_cases (e : Engine σ ω) (view : FileView) (c root : Path) (r : Registry σ)
    (shared : ω) :
    let run := r.session e view c root shared
    (∃ id, r.byConfig.get? c.normalize.components = some id ∧ run = (.ok id, r, shared)) ∨
      r.byConfig.get? c.normalize.components = none ∧
        ((∃ f, ProjectConfig.load view c.normalize = .error f ∧ run = (.error f, r, shared)) ∨
          ∃ config, ProjectConfig.load view c.normalize = .ok config ∧
            let made := e.create (newHost e view r root config) shared
            ((∃ f, made.1 = .error f ∧ run = (.error f, r, made.2)) ∨
              ∃ engine, made.1 = .ok engine ∧
                run = (.ok r.sessions.size,
                  r.addSession { configPath := c.normalize,
                                 host := newHost e view r root config, engine },
                  made.2))) := by
  unfold Registry.session makeSession newHost
  simp only
  cases hid : r.byConfig.get? c.normalize.components with
  | some id => exact Or.inl ⟨id, rfl, rfl⟩
  | none =>
      refine Or.inr ⟨rfl, ?_⟩
      cases hload : ProjectConfig.load view c.normalize with
      | error f => exact Or.inl ⟨f, rfl, rfl⟩
      | ok config =>
          refine Or.inr ⟨config, rfl, ?_⟩
          simp only
          generalize e.create _ shared = made
          obtain ⟨engine, shared'⟩ := made
          cases engine with
          | error f => exact Or.inl ⟨f, rfl, rfl⟩
          | ok engine => exact Or.inr ⟨engine, rfl, rfl⟩

/-- **All that a call can do** to a registry: nothing, or it makes a session for a config that
has none, or it asks a session. -/
theorem put_cases (e : Engine σ ω) (view : FileView) (m : Registry σ × ω) (call : Call) :
    (put e view m call).1 = m.1 ∨
      (∃ c root s, call = .session c root ∧
        m.1.byConfig.get? c.normalize.components = none ∧ s.configPath = c.normalize ∧ s.Tidy ∧
        (put e view m call).1 = m.1.addSession s) ∨
      ∃ id op s, call = .operate id op ∧ m.1.sessions[id]? = some s ∧
        (put e view m call).1 = m.1.setSession id (s.operate e view m.2 op).1 := by
  cases call with
  | session c root =>
      simp only [put]
      rcases session_cases e view c root m.1 m.2 with ⟨id, -, hrun⟩ |
          ⟨hnone, ⟨f, -, hrun⟩ | ⟨config, -, ⟨f, -, hrun⟩ | ⟨engine, -, hrun⟩⟩⟩
      · exact Or.inl (by rw [hrun])
      · exact Or.inl (by rw [hrun])
      · exact Or.inl (by rw [hrun])
      · refine Or.inr (Or.inl ⟨c, root, _, rfl, hnone, rfl, ?_, by rw [hrun]⟩)
        exact ⟨Path.normalize_normalize c, SnapshotTable.wellFormed_empty, List.nodup_nil,
          fun _ h => absurd h List.not_mem_nil,
          fun _ kept h => absurd h.symm (Option.some_ne_none kept)⟩
  | operate id op =>
      simp only [put]
      cases hs : m.1.sessions[id]? with
      | none => exact Or.inl rfl
      | some s => exact Or.inr (Or.inr ⟨id, op, s, rfl, hs, rfl⟩)

/-! ### Registries during a run -/

/-- What holds of a registry during a run: each config has one session at most, which is tidy and
is in the table for its config path. -/
structure Sound (r : Registry σ) : Prop where
  nodup : r.byConfig.keys.Nodup
  listed : ∀ key id, r.byConfig.get? key = some id →
    ∃ s, r.sessions[id]? = some s ∧ key = s.configPath.components
  sessions : ∀ id s, r.sessions[id]? = some s →
    s.Tidy ∧ r.byConfig.get? s.configPath.components = some id

theorem sound_new (options : LintOptions) : Sound (new options : Registry σ) where
  nodup := List.nodup_nil
  listed _ _ h := by cases h
  sessions id s h := by cases (Array.getElem?_empty (i := id)).symm.trans h

theorem Sound.addSession {r : Registry σ} (h : Sound r) {s : Session σ} (hs : s.Tidy)
    (hnone : r.byConfig.get? s.configPath.components = none) : Sound (r.addSession s) := by
  refine ⟨Table.nodup_keys_insert h.nodup _ _, fun key id hid => ?_, fun id s' hs' => ?_⟩
  · rw [Registry.addSession, Table.get?_insert] at hid
    rw [sessions_addSession]
    by_cases hkey : key = s.configPath.components
    · rw [if_pos hkey] at hid
      cases hid
      exact ⟨s, if_pos rfl, hkey⟩
    · rw [if_neg hkey] at hid
      obtain ⟨s', hs', hk⟩ := h.listed key id hid
      have hlt : id < r.sessions.size := (Array.getElem?_eq_some_iff.mp hs').1
      exact ⟨s', (if_neg (Nat.ne_of_lt hlt)).trans hs', hk⟩
  · rw [sessions_addSession] at hs'
    rw [Registry.addSession, Table.get?_insert]
    by_cases hid : id = r.sessions.size
    · rw [if_pos hid] at hs'
      cases hs'
      exact ⟨hs, by rw [if_pos rfl, hid]⟩
    · rw [if_neg hid] at hs'
      obtain ⟨htidy, hlisted⟩ := h.sessions id s' hs'
      refine ⟨htidy, ?_⟩
      rw [if_neg]
      · exact hlisted
      · intro e
        rw [e, hnone] at hlisted
        cases hlisted

theorem Sound.setSession {r : Registry σ} (h : Sound r) {id : Nat} {old s : Session σ}
    (hold : r.sessions[id]? = some old) (hs : s.Tidy) (hconfig : s.configPath = old.configPath) :
    Sound (r.setSession id s) := by
  refine ⟨h.nodup, fun key id' hid' => ?_, fun id' s' hs' => ?_⟩
  · obtain ⟨s', hs', hkey⟩ := h.listed key id' hid'
    rw [sessions_setSession hold]
    by_cases hid : id' = id
    · subst hid
      rw [hold] at hs'
      cases hs'
      exact ⟨s, if_pos rfl, hkey.trans (by rw [hconfig])⟩
    · exact ⟨s', (if_neg hid).trans hs', hkey⟩
  · rw [sessions_setSession hold] at hs'
    by_cases hid : id' = id
    · rw [if_pos hid] at hs'
      cases hs'
      refine ⟨hs, ?_⟩
      rw [hconfig, hid]
      exact (h.sessions id old hold).2
    · rw [if_neg hid] at hs'
      exact h.sessions id' s' hs'

theorem Sound.put (he : e.OnlyAsks) (view : FileView) {m : Registry σ × ω} (h : Sound m.1)
    (call : Call) : Sound (put e view m call).1 := by
  rcases put_cases e view m call with hp | ⟨c, root, s, -, hnone, hc, hs, hp⟩ |
      ⟨id, op, s, -, hs, hp⟩
  · rwa [hp]
  · rw [hp]
    exact h.addSession hs (hc ▸ hnone)
  · rw [hp]
    exact h.setSession hs ((h.sessions id s hs).1.operate he view m.2 op)
      (Session.configPath_operate op)

/-- A registry with its sessions, asked while files change. -/
def serving (e : Engine σ ω) : Machine (Registry σ × ω) Call where
  step := put e

/-- The files and the sessions at one moment. -/
abbrev Moment (σ ω : Type) := Machine.State (Registry σ × ω)

abbrev Event := Machine.Event Call

variable {s : Moment σ ω} {event : Event}

theorem Sound.next (he : e.OnlyAsks) (h : Sound s.memory.1) (event : Event) :
    Sound ((serving e).next s event).memory.1 := by
  cases event with
  | change c => exact h
  | call call => exact h.put he s.tree.view call

/-- **The session of a config stays the same one.** -/
theorem byConfig_next {key : List Component} {id : Nat}
    (hid : s.memory.1.byConfig.get? key = some id) :
    ((serving e).next s event).memory.1.byConfig.get? key = some id := by
  cases event with
  | change c => exact hid
  | call call =>
      change (put e s.tree.view s.memory call).1.byConfig.get? key = some id
      rcases put_cases e s.tree.view s.memory call with hp | ⟨c, root, made, -, hnone, hc, -, hp⟩ |
          ⟨id', op, made, -, -, hp⟩
      · rwa [hp]
      · rw [hp, Registry.addSession, Table.get?_insert, if_neg]
        · exact hid
        · intro e
          rw [e, hc, hnone] at hid
          cases hid
      · rwa [hp]

/-- What a session is asked keeps a property of it, and so does all else. -/
theorem session_next {I : Session σ → Prop} {id : Nat}
    (hop : ∀ op, event = .call (.operate id op) → ∀ made, I made →
      I (made.operate e s.tree.view s.memory.2 op).1)
    (h : ∃ made, s.memory.1.sessions[id]? = some made ∧ I made) :
    ∃ made, ((serving e).next s event).memory.1.sessions[id]? = some made ∧ I made := by
  obtain ⟨made, hs, hI⟩ := h
  cases event with
  | change c => exact ⟨made, hs, hI⟩
  | call call =>
      change ∃ made, (put e s.tree.view s.memory call).1.sessions[id]? = some made ∧ I made
      rcases put_cases e s.tree.view s.memory call with hp | ⟨c, root, new, -, -, -, -, hp⟩ |
          ⟨id', op, old, rfl, hold, hp⟩
      · exact ⟨made, by rwa [hp], hI⟩
      · have hlt : id < s.memory.1.sessions.size := (Array.getElem?_eq_some_iff.mp hs).1
        refine ⟨made, ?_, hI⟩
        rw [hp, sessions_addSession, if_neg (Nat.ne_of_lt hlt)]
        exact hs
      · rw [hp, sessions_setSession hold]
        by_cases hid : id = id'
        · subst hid
          rw [hold] at hs
          cases hs
          exact ⟨_, if_pos rfl, hop op rfl _ hI⟩
        · exact ⟨made, (if_neg hid).trans hs, hI⟩

/-! ### Requests for sessions -/

/-- What a request for the session of a config is answered with. -/
def ask (e : Engine σ ω) (s : Moment σ ω) (c root : Path) :
    Except LintError Nat × Registry σ × ω :=
  s.memory.1.session e s.tree.view c root s.memory.2

/-- Some spelling of a config path is asked for, and its session is given. -/
def Gives (e : Engine σ ω) (c : Path) (s : Moment σ ω) (event : Event) : Prop :=
  ∃ c' root id, c'.normalize = c.normalize ∧ event = .call (.session c' root) ∧
    (ask e s c' root).1 = .ok id

/-- A request for the session of a config depends on the config as it is now: if it cannot be
loaded, the request fails as loading does, else an engine cannot be made or there is a session
with that config. -/
def Decodes (e : Engine σ ω) (s : Moment σ ω) (c root : Path) : Prop :=
  match ProjectConfig.load s.tree.view c.normalize with
  | .error f => (ask e s c root).1 = .error f
  | .ok config =>
    (∃ f, (e.create (newHost e s.tree.view s.memory.1 root config) s.memory.2).1 = .error f ∧
      (ask e s c root).1 = .error f) ∨
    ∃ id made, (ask e s c root).1 = .ok id ∧ (ask e s c root).2.1.sessions[id]? = some made ∧
      made.configPath = c.normalize ∧ made.host.config = config

variable {c root : Path} {id : Nat}

theorem memory_session (e : Engine σ ω) (s : Moment σ ω) (c root : Path) :
    ((serving e).next s (.call (.session c root))).memory = (ask e s c root).2 := rfl

theorem memory_operate (e : Engine σ ω) (s : Moment σ ω) (id : Nat) (op : Session.Operation) :
    ((serving e).next s (.call (.operate id op))).memory =
      put e s.tree.view s.memory (.operate id op) := rfl

theorem ask_of_byConfig (h : s.memory.1.byConfig.get? c.normalize.components = some id) :
    ask e s c root = (.ok id, s.memory) := by
  rcases session_cases e s.tree.view c root s.memory.1 s.memory.2 with ⟨id', hid, hrun⟩ |
      ⟨hnone, -⟩
  · rw [h] at hid
    cases hid
    exact hrun
  · rw [h] at hnone
    cases hnone

/-- A session that is given is the one for its config from then on. -/
theorem byConfig_of_ask (h : (ask e s c root).1 = .ok id) :
    (ask e s c root).2.1.byConfig.get? c.normalize.components = some id := by
  unfold ask at h ⊢
  rcases session_cases e s.tree.view c root s.memory.1 s.memory.2 with ⟨id', hid, hrun⟩ |
      ⟨-, ⟨f, -, hrun⟩ | ⟨config, -, ⟨f, -, hrun⟩ | ⟨engine, -, hrun⟩⟩⟩
  · rw [hrun] at h ⊢
    cases h
    exact hid
  · rw [hrun] at h
    cases h
  · rw [hrun] at h
    cases h
  · rw [hrun] at h ⊢
    cases h
    exact (Table.get?_insert ..).trans (if_pos rfl)

/-- A request that fails leaves the registry as it was, without a session for the config. -/
theorem ask_of_error {f : LintError} (h : (ask e s c root).1 = .error f) :
    (ask e s c root).2.1 = s.memory.1 ∧
      s.memory.1.byConfig.get? c.normalize.components = none := by
  unfold ask at h ⊢
  rcases session_cases e s.tree.view c root s.memory.1 s.memory.2 with ⟨id', hid, hrun⟩ |
      ⟨hnone, ⟨f', -, hrun⟩ | ⟨config, -, ⟨f', -, hrun⟩ | ⟨engine, -, hrun⟩⟩⟩
  · rw [hrun] at h
    cases h
  · exact ⟨by rw [hrun], hnone⟩
  · exact ⟨by rw [hrun], hnone⟩
  · rw [hrun] at h
    cases h

/-- Without a session for it, a config is decoded as it is now. -/
theorem decodes_of_byConfig (h : s.memory.1.byConfig.get? c.normalize.components = none)
    (root : Path) : Decodes e s c root := by
  unfold Decodes ask
  rcases session_cases e s.tree.view c root s.memory.1 s.memory.2 with ⟨id', hid, -⟩ |
      ⟨-, ⟨f, hload, hrun⟩ | ⟨config, hload, ⟨f, hcreate, hrun⟩ | ⟨engine, -, hrun⟩⟩⟩
  · rw [h] at hid
    cases hid
  · rw [hload, hrun]
  · rw [hload, hrun]
    exact Or.inl ⟨f, hcreate, rfl⟩
  · rw [hload, hrun]
    exact Or.inr ⟨_, _, rfl, (sessions_addSession ..).trans (if_pos rfl), rfl, rfl⟩

/-- A config gets a session only by a request that is answered. -/
theorem byConfig_next_of_none (hnot : ¬ Gives e c s event)
    (h : s.memory.1.byConfig.get? c.normalize.components = none) :
    ((serving e).next s event).memory.1.byConfig.get? c.normalize.components = none := by
  cases event with
  | change _ => exact h
  | call call =>
      cases call with
      | session c' root =>
          change (ask e s c' root).2.1.byConfig.get? c.normalize.components = none
          cases hask : (ask e s c' root).1 with
          | error f =>
              rw [(ask_of_error hask).1]
              exact h
          | ok id =>
              have hne : c.normalize.components ≠ c'.normalize.components := fun same =>
                hnot ⟨c', root, id, (Path.Same.eq_of_normalize same).symm, rfl, hask⟩
              unfold ask
              rcases session_cases e s.tree.view c' root s.memory.1 s.memory.2 with
                ⟨id', -, hrun⟩ | ⟨-, ⟨f, -, hrun⟩ | ⟨config, -, ⟨f, -, hrun⟩ |
                  ⟨engine, -, hrun⟩⟩⟩
              · rwa [hrun]
              · rwa [hrun]
              · rwa [hrun]
              · rw [hrun]
                exact (Table.get?_insert ..).trans ((if_neg hne).trans h)
      | operate id op =>
          change (put e s.tree.view s.memory (.operate id op)).1.byConfig.get? _ = none
          simp only [put]
          cases s.memory.1.sessions[id]? with
          | none => exact h
          | some made => exact h

/-! ### The main result -/

theorem Sound.after (he : e.OnlyAsks) (h : Sound s.memory.1) (run : List Event) :
    Sound ((serving e).after s run).memory.1 :=
  Machine.invariant_after_of_next (I := fun s : Moment σ ω => Sound s.memory.1)
    (fun _ event h => h.next he event) h run

/-- The session that is given stays the one for its config. -/
theorem ask_again (h : (ask e s c root).1 = .ok id) (later : List Event) {c' : Path}
    (hc : c'.normalize = c.normalize) (root' : Path) :
    let s' := (serving e).after s (.call (.session c root) :: later)
    ask e s' c' root' = (.ok id, s'.memory) := by
  intro s'
  have hid : s'.memory.1.byConfig.get? c.normalize.components = some id :=
    Machine.invariant_after_of_next
      (I := fun s : Moment σ ω => s.memory.1.byConfig.get? c.normalize.components = some id)
      (fun _ _ hid => byConfig_next hid) (byConfig_of_ask h) later
  exact ask_of_byConfig (hc ▸ hid)

/-- A session keeps the config that it was made with. -/
theorem config_kept (he : e.OnlyAsks) {config : ProjectConfig}
    (h : ∃ made, s.memory.1.sessions[id]? = some made ∧ made.configPath = c ∧
      made.host.config = config) (run : List Event) :
    ∃ made, ((serving e).after s run).memory.1.sessions[id]? = some made ∧
      made.configPath = c ∧ made.host.config = config := by
  refine Machine.invariant_after_of_next (I := fun s : Moment σ ω =>
    ∃ made, s.memory.1.sessions[id]? = some made ∧ made.configPath = c ∧
      made.host.config = config) (fun s event h => ?_) h run
  refine session_next (I := fun made => made.configPath = c ∧ made.host.config = config)
    (fun op _ made hmade => ?_) h
  refine ⟨(Session.configPath_operate op).trans hmade.1, ?_⟩
  exact Session.operate_keeps he (P := fun h => h.config = config)
    (fun h op hh => (Host.sameSettings_operate _ h op).config.trans hh) hmade.2 op

/-- A list of faults is kept until its file is released. -/
theorem found_kept {p : Path} {kept : Shared (List Diagnostic)}
    (h : ∃ made, s.memory.1.sessions[id]? = some made ∧
      made.found.get? p.normalize.components = some kept) {run : List Event}
    (hrun : ∀ event ∈ run, ∀ file : Path, event = .call (.operate id (.release file)) →
      file.normalize ≠ p.normalize) :
    ∃ made, ((serving e).after s run).memory.1.sessions[id]? = some made ∧
      made.found.get? p.normalize.components = some kept := by
  refine Machine.invariant_after (I := fun s : Moment σ ω =>
    ∃ made, s.memory.1.sessions[id]? = some made ∧
      made.found.get? p.normalize.components = some kept)
    (P := fun _ event => ∀ file : Path, event = .call (.operate id (.release file)) →
      file.normalize ≠ p.normalize) (fun s event h hevent => ?_) h
    (Machine.always_of_forall hrun _)
  refine session_next (I := fun made => made.found.get? p.normalize.components = some kept)
    (fun op hop made hmade => ?_) h
  exact Session.found_operate_of_found hmade fun file hfile => hevent file (by rw [hop, hfile])

/-- **What is known of sessions.**  Let a registry be asked for the sessions of configs, and its
sessions for anything, while files are written, fail, and can be read again.  At any moment:

* each config path in normal form has one session at most, and each session is in the table for
  its config path;
* a session that is given is given again for every spelling of its config path, whatever has
  become of the config and whatever root is told;
* a session that is made has the config as it is decoded then, and keeps it;
* a request that fails leaves the registry as it was, and until another one is answered the
  config is decoded as it is at the moment;
* a session has one list of faults at most for each normalized path; it answers with the same
  list until the file is released, and keeps nothing of a failure; a release forgets the file and
  leaves what is known of other files, and what is asked of one session leaves the others. -/
theorem sessions_keep (he : e.OnlyAsks) (options : LintOptions) (shared : ω) (tree : MemoryTree)
    (before : List Event) :
    let start : Moment σ ω := ⟨tree, (.new options, shared)⟩
    let now := (serving e).after start before
    let r := now.memory.1
    (r.byConfig.keys.Nodup ∧
      (∀ key id, r.byConfig.get? key = some id → ∃ s, r.sessions[id]? = some s ∧
        key = s.configPath.components ∧ s.configPath.normalize = s.configPath) ∧
      ∀ id s, r.sessions[id]? = some s → r.byConfig.get? s.configPath.components = some id) ∧
    (∀ c root id, (ask e now c root).1 = .ok id → ∀ later (c' root' : Path),
      c'.normalize = c.normalize →
        let s := (serving e).after now (.call (.session c root) :: later)
        ask e s c' root' = (.ok id, s.memory)) ∧
    (∀ c root id, r.byConfig.get? c.normalize.components = none → (ask e now c root).1 = .ok id →
      ∃ config, ProjectConfig.load now.tree.view c.normalize = .ok config ∧ ∀ later,
        let s := (serving e).after now (.call (.session c root) :: later)
        ∃ made, s.memory.1.sessions[id]? = some made ∧ made.configPath = c.normalize ∧
          made.host.config = config) ∧
    (∀ c root f, (ask e now c root).1 = .error f →
      (ask e now c root).2.1 = r ∧ ∀ between,
        (serving e).Always (fun s event => ¬ Gives e c s event)
          ((serving e).next now (.call (.session c root))) between →
        ∀ c' root' : Path, c'.normalize = c.normalize →
          Decodes e ((serving e).after now (.call (.session c root) :: between)) c' root') ∧
    ∀ id s, r.sessions[id]? = some s →
      (s.found.keys.Nodup ∧ ∀ key ∈ s.found.keys, ∃ p : Path, key = p.normalize.components) ∧
      (∀ file kept, (s.diagnostics e now.tree.view file now.memory.2).1 = .ok kept → ∀ later,
        (∀ event ∈ later, ∀ file' : Path, event = .call (.operate id (.release file')) →
          file'.normalize ≠ file.normalize) →
        let t := (serving e).after now (.call (.operate id (.diagnostics file)) :: later)
        ∃ s', t.memory.1.sessions[id]? = some s' ∧
          ∀ file' : Path, file'.normalize = file.normalize →
            s'.diagnostics e t.tree.view file' t.memory.2 = (.ok kept, s', t.memory.2)) ∧
      (∀ file f, (s.diagnostics e now.tree.view file now.memory.2).1 = .error f →
        (s.diagnostics e now.tree.view file now.memory.2).2.1.found = s.found) ∧
      (∀ file, Session.SameElsewhere file s (s.release e file now.memory.2).2.1 ∧
        Session.Forgotten e file s (s.release e file now.memory.2).2.1) ∧
      ∀ op id', id' ≠ id →
        ((serving e).next now (.call (.operate id op))).memory.1.sessions[id']? =
          r.sessions[id']? := by
  intro start now r
  have hnow : Sound r := Sound.after (s := start) he (sound_new options) before
  refine ⟨⟨hnow.nodup, fun key id hid => ?_, fun id s hs => (hnow.sessions id s hs).2⟩,
    fun c root id h later c' root' hc => ask_again h later hc root', fun c root id hnone h => ?_,
    fun c root f h => ⟨(ask_of_error h).1, fun between hbetween c' root' hc => ?_⟩,
    fun id s hs => ⟨?_, fun file kept h later hlater => ?_, fun file f h => ?_, fun file => ?_,
      fun op id' hid => ?_⟩⟩
  · obtain ⟨s, hs, hkey⟩ := hnow.listed key id hid
    exact ⟨s, hs, hkey, (hnow.sessions id s hs).1.configPath⟩
  · have hdecodes := decodes_of_byConfig (e := e) hnone root
    unfold Decodes at hdecodes
    cases hload : ProjectConfig.load now.tree.view c.normalize with
    | error f =>
        rw [hload, h] at hdecodes
        cases hdecodes
    | ok config =>
        rw [hload] at hdecodes
        rcases hdecodes with ⟨f, -, hf⟩ | ⟨id', made, hid', hmade⟩
        · rw [h] at hf
          cases hf
        · rw [h] at hid'
          cases hid'
          exact ⟨config, rfl, fun later => config_kept he ⟨made, hmade⟩ later⟩
  · obtain ⟨hsame, hnone⟩ := ask_of_error h
    have hnext : ((serving e).next now (.call (.session c root))).memory.1 = r := hsame
    have hstill := Machine.invariant_after
      (I := fun s : Moment σ ω => s.memory.1.byConfig.get? c.normalize.components = none)
      (fun _ _ h hnot => byConfig_next_of_none hnot h) (by rw [hnext]; exact hnone) hbetween
    exact decodes_of_byConfig (hc ▸ hstill) root'
  · exact ⟨(hnow.sessions id s hs).1.nodup, (hnow.sessions id s hs).1.keys⟩
  · have hmade : ∃ made,
        ((serving e).next now (.call (.operate id (.diagnostics file)))).memory.1.sessions[id]? =
          some made ∧ made.found.get? file.normalize.components = some kept :=
      ⟨_, (sessions_operate hs (.diagnostics file) id).trans (if_pos rfl),
        Session.found_of_diagnostics h⟩
    obtain ⟨s', hs', hkept⟩ := found_kept hmade hlater
    refine ⟨s', hs', fun file' hfile => ?_⟩
    exact Session.diagnostics_of_found (hfile ▸ hkept)
  · exact Session.found_of_error h
  · have htidy := (hnow.sessions id s hs).1
    exact ⟨Session.sameElsewhere_release htidy e file now.memory.2,
      Session.forgotten_release htidy e file now.memory.2⟩
  · exact (sessions_operate hs op id').trans (if_neg hid)

/-- A config that says nothing is one that leaves everything out. -/
theorem load_of_read {view : FileView} {c : Path} (h : view.read c = .ok "{}".toList) :
    ProjectConfig.load view c = ProjectConfig.ofWritten c {} := by
  have hparse : Relaxed.parse "{}".toList = some (.object []) := by cbv
  rw [ProjectConfig.load, h]
  simp only [ProjectConfig.parse, WrittenConfig.ofText, hparse]
  rfl

/-- The config that says nothing, for a project. -/
def bareConfig : ProjectConfig where
  configPath := .ofString "/p/tsconfig.json"
  rootDir := .ofString "/p"
  options := {}
  files := none
  included := some [everything]
  excluded := defaultExcluded

theorem load_bareConfig {view : FileView}
    (h : view.read (.ofString "/p/tsconfig.json") = .ok "{}".toList) :
    ProjectConfig.load view (Path.ofString "/p/tsconfig.json").normalize = .ok bareConfig := by
  have hpatterns : ProjectConfig.checkPatterns (.ofString "/p") (some [everything])
      defaultExcluded = .ok () := by cbv
  have hok : ProjectConfig.ofWritten (.ofString "/p/tsconfig.json") {} = .ok bareConfig := by
    have hroot : (Path.ofString "/p/tsconfig.json").parent = some (.ofString "/p") := by cbv
    simp only [ProjectConfig.ofWritten, hroot, Option.getD_some, Option.getD_none,
      ProjectConfig.effectivePatterns, hpatterns]
    rfl
  exact (load_of_read h).trans hok

/-- A config that says nothing and a source that refers to nothing that is there. -/
def spoiledTree : MemoryTree := .ofFiles [
  (.ofString "/p/tsconfig.json", "{}".toList), (.ofString "/p/a.ts", "import './b';".toList)]

/-- The two files, and a registry that is asked about them. -/
def spoiled (before : List Event) : Moment ImportCheck.State Unit :=
  (serving (importEngine none)).after ⟨spoiledTree, (.new {}, ())⟩ before

/-- A request for the session of the config, and one for the faults of the source. -/
def opening : Event := .call (.session (.ofString "/p/tsconfig.json") (.ofString "/p"))

def checking : Event := .call (.operate 0 (.diagnostics (.ofString "/p/a.ts")))

/-- What becomes of the two files. -/
def spoiling : List Event := [
  .change (.write (.ofString "/p/tsconfig.json") "broken".toList),
  .change (.write (.ofString "/p/a.ts") [])]

/-- The session that is made for the config. -/
def spoiledSession : Session ImportCheck.State where
  configPath := .ofString "/p/tsconfig.json"
  host := newHost (importEngine none) spoiledTree.view (.new {} : Registry ImportCheck.State)
    (.ofString "/p") bareConfig
  engine := {}

theorem ask_opening :
    ask (importEngine none) (spoiled []) (.ofString "/p/tsconfig.json") (.ofString "/p") =
      (.ok 0, (Registry.new {}).addSession spoiledSession, ()) := by
  have hload : ProjectConfig.load spoiledTree.view (Path.ofString "/p/tsconfig.json").normalize =
      .ok bareConfig := load_bareConfig rfl
  change (Registry.new {}).session (importEngine none) spoiledTree.view
    (.ofString "/p/tsconfig.json") (.ofString "/p") () = _
  rcases session_cases (importEngine none) spoiledTree.view (.ofString "/p/tsconfig.json")
    (.ofString "/p") (.new {}) () with
      ⟨id, hid, -⟩ | ⟨-, ⟨f, hf, -⟩ | ⟨config, hconfig, ⟨f, hf, -⟩ | ⟨engine, hengine, hrun⟩⟩⟩
  · cases hid
  · cases hload.symm.trans hf
  · cases hf
  · cases hload.symm.trans hconfig
    cases hengine
    exact hrun

theorem sessions_opening : (spoiled [opening]).memory.1.sessions[0]? = some spoiledSession := by
  have hnext : (spoiled [opening]).memory =
      (ask (importEngine none) (spoiled []) (.ofString "/p/tsconfig.json") (.ofString "/p")).2 :=
    memory_session ..
  rw [hnext, ask_opening, sessions_addSession]
  exact if_pos rfl

/-- What that session is asked first, and what it answers. -/
def spoiledAnswer :
    Except LintError (Shared (List Diagnostic)) × Session ImportCheck.State × Unit :=
  spoiledSession.diagnostics (importEngine none) spoiledTree.view (.ofString "/p/a.ts") ()

theorem codes_spoiledAnswer :
    (spoiledAnswer.1.toOption.map fun kept => kept.value.map Diagnostic.code) = some [2307] := by
  decide +kernel

theorem sessions_checking :
    (spoiled [opening, checking]).memory.1.sessions[0]? = some spoiledAnswer.2.1 := by
  have hnext : (spoiled [opening, checking]).memory =
      put (importEngine none) spoiledTree.view (spoiled [opening]).memory
        (.operate 0 (.diagnostics (.ofString "/p/a.ts"))) := memory_operate ..
  rw [hnext, sessions_operate sessions_opening, if_pos rfl,
    Subsingleton.elim (spoiled [opening]).memory.2 (), Session.operate, spoiledAnswer]

theorem found_spoiledAnswer {kept : Shared (List Diagnostic)} (h : spoiledAnswer.1 = .ok kept) :
    spoiledAnswer.2.1.found.get? (Path.ofString "/p/a.ts").normalize.components = some kept := by
  rw [spoiledAnswer] at h ⊢
  exact Session.found_of_diagnostics h

/-- The session of the config is given again, for another spelling and another root, although the
config is spoiled.  Its list of faults is given again, for another spelling, although the source is
spoiled; a release forgets it. -/
theorem ask_spoiled :
    (importEngine none).OnlyAsks ∧
      (ask (importEngine none) (spoiled []) (.ofString "/p/tsconfig.json") (.ofString "/p")).1 =
        .ok 0 ∧
      (ask (importEngine none) ((serving (importEngine none)).after (spoiled [])
        (opening :: spoiling)) (.ofString "/p/q/../tsconfig.json") (.ofString "/q")).1 = .ok 0 ∧
      ∃ kept, kept.value.map Diagnostic.code = [2307] ∧
        spoiledAnswer.1 = .ok kept ∧
        (∃ s, ((serving (importEngine none)).after (spoiled [opening])
            (checking :: spoiling)).memory.1.sessions[0]? = some s ∧
          (s.diagnostics (importEngine none) ((serving (importEngine none)).after
            (spoiled [opening]) (checking :: spoiling)).tree.view (.ofString "/p/./a.ts")
            ((serving (importEngine none)).after (spoiled [opening])
            (checking :: spoiling)).memory.2).1 = .ok kept) ∧
        ∃ s, (spoiled [opening, checking]).memory.1.sessions[0]? = some s ∧
          s.found.get? (Path.ofString "/p/a.ts").normalize.components = some kept ∧
          Session.Forgotten (importEngine none) (.ofString "/p/a.ts") s
            (s.release (importEngine none) (.ofString "/p/a.ts") ()).2.1 := by
  have he := onlyAsks_importEngine none
  have hgiven : (ask (importEngine none) (spoiled []) (.ofString "/p/tsconfig.json")
      (.ofString "/p")).1 = .ok 0 := by rw [ask_opening]
  obtain ⟨kept, hkept, hcodes⟩ := Option.map_eq_some_iff.mp codes_spoiledAnswer
  have hanswer := ImportCheck.eq_ok_of_toOption hkept
  obtain ⟨-, hagain, -⟩ := sessions_keep he {} () spoiledTree []
  obtain ⟨-, -, -, -, hkeep⟩ := sessions_keep he {} () spoiledTree [opening]
  obtain ⟨-, -, -, -, hforget⟩ := sessions_keep he {} () spoiledTree [opening, checking]
  have hsame := congrArg Prod.fst (hagain _ _ 0 hgiven spoiling (.ofString "/p/q/../tsconfig.json")
    (.ofString "/q") (by decide))
  obtain ⟨-, hlist, -⟩ := hkeep 0 spoiledSession sessions_opening
  obtain ⟨s, hs, hlater⟩ := hlist (.ofString "/p/a.ts") kept hanswer spoiling (by simp [spoiling])
  have hlist := congrArg Prod.fst (hlater (.ofString "/p/./a.ts") (by decide))
  obtain ⟨t, ht, hfound⟩ : ∃ t, (spoiled [opening, checking]).memory.1.sessions[0]? = some t ∧
      t.found.get? (Path.ofString "/p/a.ts").normalize.components = some kept :=
    ⟨_, sessions_checking, found_spoiledAnswer hanswer⟩
  obtain ⟨-, -, -, hrelease, -⟩ := hforget 0 t ht
  exact ⟨he, hgiven, hsame, kept, hcodes, hanswer, ⟨s, hs, hlist⟩, t, ht, hfound,
    (hrelease (.ofString "/p/a.ts")).2⟩

end Registry

end ImportLint
