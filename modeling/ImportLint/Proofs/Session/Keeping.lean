import Mathlib.Data.List.Dedup
import ImportLint.Proofs.Session.Memory

/-!
# Sessions — answers that are kept

A host answers a reference once and keeps the answer under a key, whatever becomes of the files
later.  Nothing is assumed about them here: each inquiry sees the files through a view of its
own, so whatever is written, fails or is cleared between two inquiries is a change of view.

* `Inquiry.place`: what a reference leads to, told from how it and its file are spelled.
* `replies`: what becomes of the inquiries of a run.
* `Reply.Agrees`: of two answers with one key the later is the earlier one, and found modules
  are one and the same exactly if their keys are.
* `Ledger`: how the table of a host and the replies so far belong together.
* `Inquiry.ask_cases`: all that an inquiry can do; `Ledger.ask` is the step, and
  `Ledger.agrees` and `Ledger.after` are the run.
* `answers_kept_by_key`: the law of the table, at any point of any run.
-/

namespace ImportLint.Host

/-- A reference in a file, asked for while the files are as `view` shows them. -/
structure Inquiry where
  view : FileView
  specifier : Text
  file : Path

namespace Inquiry

/-- The key under which an answer is kept. -/
def key (q : Inquiry) : List Component × Option Text :=
  (CacheKey.new (directoryOf q.file) q.specifier).identity

/-- The answer, and the host that has given it. -/
def ask (q : Inquiry) (h : Host) : Except LintError (Option (Shared ResolvedModule)) × Host :=
  (resolve q.view q.specifier q.file).run h

/-- What is found if it is looked for, whatever has been kept. -/
def look (q : Inquiry) (h : Host) : Except LintError (Option ResolvedModule) :=
  (lookup q.view h (directoryOf q.file) q.specifier).1

/-! ### Keys -/

/-- The folder of the file, as the file is spelled. -/
def folder (q : Inquiry) : Path := q.file.parent.getD (Path.ofString "/")

/-- What a reference leads to: a file reference to a path, any other to what its name stands for
in the folder. -/
def place (q : Inquiry) : Path × Option Text :=
  if Specifier.isPath q.specifier then ((q.folder.join ⟨q.specifier⟩).normalize, none)
  else (q.folder.normalize, some q.specifier)

theorem key_eq (q : Inquiry) : q.key = (q.place.1.components, q.place.2) := by
  unfold key CacheKey.new place
  by_cases hp : Specifier.isPath q.specifier = true
  · rw [if_pos hp, if_pos hp, show directoryOf q.file = q.folder.normalize from rfl,
      Path.normalize_normalize_join]
    rfl
  · rw [if_neg hp, if_neg hp]
    rfl

theorem exists_place_eq_normalize (q : Inquiry) : ∃ p : Path, q.place.1 = p.normalize := by
  unfold place
  split
  · exact ⟨_, rfl⟩
  · exact ⟨_, rfl⟩

/-- **Keys are equal** exactly if the references lead to the same, however they are spelled. -/
theorem key_eq_key_iff (q q' : Inquiry) : q.key = q'.key ↔ q.place = q'.place := by
  rw [key_eq, key_eq, Prod.ext_iff, Prod.ext_iff]
  refine and_congr_left fun _ => ⟨fun h => ?_, fun h => congrArg Path.components h⟩
  obtain ⟨p, hp⟩ := q.exists_place_eq_normalize
  obtain ⟨p', hp'⟩ := q'.exists_place_eq_normalize
  rw [hp, hp'] at h ⊢
  exact Path.Same.eq_of_normalize h

/-! ### One inquiry -/

theorem resolutions_lookup (q : Inquiry) (h : Host) :
    (lookup q.view h (directoryOf q.file) q.specifier).2.resolutions = h.resolutions := by
  unfold lookup
  split <;> rfl

/-- **All that an inquiry can do** to the answers that are kept: one of them serves it, or it
fails, or it finds an answer that is kept from then on. -/
theorem ask_cases (q : Inquiry) (h : Host) :
    (∃ found, h.resolutions.entries.get? q.key = some found ∧ (q.ask h).1 = .ok found ∧
        (q.ask h).2.resolutions = h.resolutions.countHit) ∨
      h.resolutions.entries.get? q.key = none ∧
        ((∃ e, q.look h = .error e ∧ (q.ask h).1 = .error e ∧
            (q.ask h).2.resolutions = h.resolutions.countMiss) ∨
          ∃ found, q.look h = .ok found ∧
            (q.ask h).1 = .ok (found.map fun m => ⟨h.resolutions.size, m⟩) ∧
            (q.ask h).2.resolutions =
              { h.resolutions.countMiss with
                entries := h.resolutions.entries.insert q.key
                  (found.map fun m => ⟨h.resolutions.size, m⟩) }) := by
  have hr := q.resolutions_lookup h
  unfold ask look
  rw [resolve_run]
  change (∃ found, h.resolutions.get? _ = some found ∧ _) ∨ h.resolutions.get? _ = none ∧ _
  cases h.resolutions.get? (.new (directoryOf q.file) q.specifier) with
  | some found => exact Or.inl ⟨found, rfl, rfl, rfl⟩
  | none =>
      refine Or.inr ⟨rfl, ?_⟩
      generalize lookup q.view h (directoryOf q.file) q.specifier = run
      obtain ⟨answer, h'⟩ := run
      cases answer with
      | error e => exact Or.inl ⟨e, rfl, rfl, rfl⟩
      | ok found => exact Or.inr ⟨found, rfl, rfl, rfl⟩

/-- An inquiry leaves the answers to all others as they are. -/
theorem get?_ask_of_ne (q : Inquiry) (h : Host) {key : List Component × Option Text}
    (hk : key ≠ q.key) :
    (q.ask h).2.resolutions.entries.get? key = h.resolutions.entries.get? key := by
  obtain ⟨_, -, -, hr⟩ | ⟨-, ⟨_, -, -, hr⟩ | ⟨_, -, -, hr⟩⟩ := q.ask_cases h
  · rw [hr]; rfl
  · rw [hr]; rfl
  · rw [hr, Table.get?_insert, if_neg hk]

/-- Without a kept answer it is looked for one. -/
theorem ask_of_get?_eq_none (q : Inquiry) {h : Host}
    (hn : h.resolutions.entries.get? q.key = none) :
    (q.ask h).1.map (Option.map Shared.value) = q.look h ∧
      (q.ask h).2.resolutions.misses = h.resolutions.misses + 1 := by
  obtain ⟨_, hs, -⟩ | ⟨-, ⟨e, hl, ha, hr⟩ | ⟨found, hl, ha, hr⟩⟩ := q.ask_cases h
  · rw [hn] at hs
    cases hs
  · rw [hl, ha, hr]
    exact ⟨rfl, rfl⟩
  · rw [hl, ha, hr]
    refine ⟨?_, rfl⟩
    cases found <;> rfl

/-- A failure keeps nothing. -/
theorem ask_of_error (q : Inquiry) {h : Host} (he : (q.ask h).1.isOk = false) :
    h.resolutions.entries.get? q.key = none ∧
      (q.ask h).2.resolutions.entries = h.resolutions.entries := by
  obtain ⟨_, -, ha, -⟩ | ⟨hn, ⟨_, -, -, hr⟩ | ⟨_, -, ha, -⟩⟩ := q.ask_cases h
  · rw [ha] at he
    cases he
  · exact ⟨hn, by rw [hr]; rfl⟩
  · rw [ha] at he
    cases he

end Inquiry

/-! ### Runs -/

/-- The host after some inquiries, whether they are answered or fail. -/
def afterInquiries (h : Host) (run : List Inquiry) : Host := run.foldl (fun h q => (q.ask h).2) h

/-- What becomes of an inquiry. -/
structure Reply where
  key : List Component × Option Text
  answer : Except LintError (Option (Shared ResolvedModule))

def Reply.isAnswered (r : Reply) : Bool := r.answer.isOk

/-- What becomes of the inquiries of a run. -/
def replies : Host → List Inquiry → List Reply
  | _, [] => []
  | h, q :: rest => ⟨q.key, (q.ask h).1⟩ :: replies (q.ask h).2 rest

/-- An answer stands for all later ones with its key, and two modules that are found are one and
the same exactly if they are kept under one key. -/
def Reply.Agrees (earlier later : Reply) : Prop :=
  (earlier.key = later.key → ∀ found, earlier.answer = .ok found → later.answer = .ok found) ∧
    ∀ m m', earlier.answer = .ok (some m) → later.answer = .ok (some m') →
      (m.id = m'.id ↔ earlier.key = later.key)

/-- The answers that a host has kept are those of the replies so far. -/
structure Ledger (h : Host) (past : List Reply) : Prop where
  kept : ∀ key found, h.resolutions.entries.get? key = some found ↔
    ∃ r ∈ past, r.key = key ∧ r.answer = .ok found
  nodup : h.resolutions.entries.keys.Nodup
  /-- Modules are numbered by the entries that were there before them. -/
  numbered : ∀ key m, h.resolutions.entries.get? key = some (some m) →
    m.id < h.resolutions.size
  distinct : ∀ key key' m m', h.resolutions.entries.get? key = some (some m) →
    h.resolutions.entries.get? key' = some (some m') → m.id = m'.id → key = key'
  calls : h.resolutions.hits + h.resolutions.misses = past.length
  misses : h.resolutions.misses =
    h.resolutions.size + past.countP fun r => !r.isAnswered

namespace Ledger

variable {h : Host} {past : List Reply}

/-- A new host has kept nothing. -/
theorem new (view : FileView) (config : ProjectConfig) (projectRoot : Path)
    (globals : List Path) (libDir : Option Path) :
    Ledger (.new view config projectRoot globals libDir) [] where
  kept key found := ⟨(nomatch ·), fun ⟨_, hr, _⟩ => nomatch hr⟩
  nodup := List.nodup_nil
  numbered _ _ hk := by cases hk
  distinct _ _ _ _ hk := by cases hk
  calls := rfl
  misses := rfl

/-- A reply that changes no entry: a kept answer once more, or a failure. -/
theorem replied (hl : Ledger h past) {h' : Host} {r : Reply}
    (he : h'.resolutions.entries = h.resolutions.entries)
    (hr : ∀ found, r.answer = .ok found → h.resolutions.entries.get? r.key = some found)
    (hc : h'.resolutions.hits + h'.resolutions.misses =
      h.resolutions.hits + h.resolutions.misses + 1)
    (hm : h'.resolutions.misses = h.resolutions.misses + if r.isAnswered then 0 else 1) :
    Ledger h' (past ++ [r]) where
  kept key found := by
    rw [he, hl.kept]
    refine ⟨fun ⟨s, hs, hk⟩ => ⟨s, List.mem_append_left _ hs, hk⟩, fun ⟨s, hs, hk, ha⟩ => ?_⟩
    rcases List.mem_append.mp hs with hs | hs
    · exact ⟨s, hs, hk, ha⟩
    · obtain rfl := List.mem_singleton.mp hs
      exact (hl.kept key found).mp (hk ▸ hr found ha)
  nodup := he ▸ hl.nodup
  numbered key m hk := by
    rw [ResolutionCache.size, he] at *
    exact hl.numbered key m hk
  distinct := he ▸ hl.distinct
  calls := by rw [hc, hl.calls, List.length_append, List.length_singleton]
  misses := by
    rw [hm, hl.misses, ResolutionCache.size, ResolutionCache.size, he, List.countP_append,
      List.countP_singleton]
    cases r.isAnswered <;> simp [Nat.add_assoc]

/-- The entries with a new one are the answers so far with the new one. -/
theorem kept_insert (hl : Ledger h past) {key : List Component × Option Text}
    (hn : h.resolutions.entries.get? key = none) (answer : Option (Shared ResolvedModule))
    (k : List Component × Option Text) (found : Option (Shared ResolvedModule)) :
    (h.resolutions.entries.insert key answer).get? k = some found ↔
      ∃ r ∈ past ++ [⟨key, .ok answer⟩], r.key = k ∧ r.answer = .ok found := by
  rw [Table.get?_insert]
  refine ⟨fun hk => ?_, fun ⟨s, hs, hk, ha⟩ => ?_⟩
  · split at hk
    · next e =>
      cases hk
      exact ⟨_, List.mem_append_right _ List.mem_cons_self, e.symm, rfl⟩
    · obtain ⟨s, hs, hk⟩ := (hl.kept k found).mp hk
      exact ⟨s, List.mem_append_left _ hs, hk⟩
  · rcases List.mem_append.mp hs with hs | hs
    · have hk' := (hl.kept k found).mpr ⟨s, hs, hk, ha⟩
      rw [if_neg fun e => ?_]
      · exact hk'
      · rw [e, hn] at hk'
        cases hk'
    · obtain rfl := List.mem_singleton.mp hs
      rw [if_pos hk.symm]
      exact congrArg some (Except.ok.inj ha)

/-- A new module has a number that no earlier one has. -/
theorem number_insert (hl : Ledger h past) {key : List Component × Option Text}
    (found : Option ResolvedModule) {k : List Component × Option Text}
    {m : Shared ResolvedModule}
    (hk : (h.resolutions.entries.insert key
      (found.map fun m => ⟨h.resolutions.size, m⟩)).get? k = some (some m)) :
    k = key ∧ m.id = h.resolutions.size ∨
      h.resolutions.entries.get? k = some (some m) ∧ m.id < h.resolutions.size := by
  rw [Table.get?_insert] at hk
  split at hk
  · next e =>
    cases found with
    | none => cases hk
    | some _ => cases hk; exact Or.inl ⟨e, rfl⟩
  · exact Or.inr ⟨hk, hl.numbered k m hk⟩

/-- A reply that is kept. -/
theorem kept_new (hl : Ledger h past) {h' : Host} {key : List Component × Option Text}
    (hn : h.resolutions.entries.get? key = none) (found : Option ResolvedModule)
    (hr : h'.resolutions = { h.resolutions.countMiss with
      entries := h.resolutions.entries.insert key
        (found.map fun m => ⟨h.resolutions.size, m⟩) }) :
    Ledger h' (past ++ [⟨key, .ok (found.map fun m => ⟨h.resolutions.size, m⟩)⟩]) := by
  have hsize : h'.resolutions.size = h.resolutions.size + 1 := by
    rw [hr]
    exact congrArg List.length (Table.entries_insert_of_get?_eq_none hn
      (found.map fun m => (⟨h.resolutions.size, m⟩ : Shared ResolvedModule)))
  have hentries := congrArg ResolutionCache.entries hr
  simp only at hentries
  refine ⟨fun k a => ?_, ?_, fun k m hk => ?_, fun k k' m m' hk hk' hid => ?_, ?_, ?_⟩
  · rw [hentries]
    exact hl.kept_insert hn _ k a
  · rw [hentries]
    exact Table.nodup_keys_insert hl.nodup _ _
  · rw [hentries] at hk
    rcases hl.number_insert found hk with ⟨-, h⟩ | ⟨-, h⟩ <;> omega
  · rw [hentries] at hk hk'
    rcases hl.number_insert found hk with ⟨e, h⟩ | ⟨hk, h⟩
    · rcases hl.number_insert found hk' with ⟨e', -⟩ | ⟨-, h'⟩
      · exact e.trans e'.symm
      · omega
    · rcases hl.number_insert found hk' with ⟨-, h'⟩ | ⟨hk', -⟩
      · omega
      · exact hl.distinct k k' m m' hk hk' hid
  · rw [List.length_append, List.length_singleton, ← hl.calls, hr]
    simp only [ResolutionCache.countMiss]
    omega
  · rw [hsize, List.countP_append, hr]
    change h.resolutions.misses + 1 = _
    rw [hl.misses]
    simp [Reply.isAnswered, Except.isOk, Except.toBool]
    omega

/-- **One inquiry** adds its reply to the ledger. -/
theorem ask (hl : Ledger h past) (q : Inquiry) :
    Ledger (q.ask h).2 (past ++ [⟨q.key, (q.ask h).1⟩]) := by
  obtain ⟨found, hs, ha, hr⟩ | ⟨hn, ⟨e, -, ha, hr⟩ | ⟨found, -, ha, hr⟩⟩ := q.ask_cases h
  · refine hl.replied (by rw [hr]; rfl) (fun a hf => ?_) ?_ ?_
    · rw [ha] at hf
      cases hf
      exact hs
    · rw [hr]
      simp only [ResolutionCache.countHit]
      omega
    · rw [Reply.isAnswered, ha, hr]
      rfl
  · refine hl.replied (by rw [hr]; rfl) (fun a hf => ?_) ?_ ?_
    · rw [ha] at hf
      cases hf
    · rw [hr]
      exact (Nat.add_assoc _ _ _).symm
    · rw [Reply.isAnswered, ha, hr]
      rfl
  · rw [ha]
    exact hl.kept_new hn found hr

/-- What is in the ledger agrees with the next reply. -/
theorem agrees_ask (hl : Ledger h past) (q : Inquiry) :
    ∀ r ∈ past, r.Agrees ⟨q.key, (q.ask h).1⟩ := by
  have hnext := hl.ask q
  intro r hr
  have hlast : ∀ found, (q.ask h).1 = .ok found →
      (q.ask h).2.resolutions.entries.get? q.key = some found := fun found ha =>
    (hnext.kept q.key found).mpr
      ⟨_, List.mem_append_right _ List.mem_cons_self, rfl, ha⟩
  have hold : ∀ found, r.answer = .ok found →
      (q.ask h).2.resolutions.entries.get? r.key = some found := fun found ha =>
    (hnext.kept r.key found).mpr ⟨r, List.mem_append_left _ hr, rfl, ha⟩
  refine ⟨fun hk found ha => ?_, fun m m' ha ha' => ⟨fun hid => ?_, fun hk => ?_⟩⟩
  · have hs := (hl.kept q.key found).mpr ⟨r, hr, hk, ha⟩
    obtain ⟨a, hs', ha', -⟩ | ⟨hn, -⟩ := q.ask_cases h
    · rw [hs] at hs'
      cases hs'
      exact ha'
    · rw [hs] at hn
      cases hn
  · exact hnext.distinct _ _ m m' (hold _ ha) (hlast _ ha') hid
  · have hm := hold _ ha
    rw [show r.key = q.key from hk, hlast _ ha'] at hm
    cases hm
    rfl

/-- **The replies of a run** agree with each other and with those before the run. -/
theorem agrees (hl : Ledger h past) (run : List Inquiry) :
    (∀ r ∈ past, ∀ r' ∈ replies h run, r.Agrees r') ∧ (replies h run).Pairwise Reply.Agrees := by
  induction run generalizing h past with
  | nil => exact ⟨fun _ _ _ => (nomatch ·), List.Pairwise.nil⟩
  | cons q rest ih =>
      obtain ⟨hpast, hpair⟩ := ih (hl.ask q)
      refine ⟨fun r hr r' hr' => ?_, List.pairwise_cons.mpr ⟨fun r' hr' => ?_, hpair⟩⟩
      · rcases List.mem_cons.mp hr' with rfl | hr'
        · exact hl.agrees_ask q r hr
        · exact hpast r (List.mem_append_left _ hr) r' hr'
      · exact hpast _ (List.mem_append_right _ List.mem_cons_self) r' hr'

/-- **The ledger of a run**. -/
theorem after (hl : Ledger h past) (run : List Inquiry) :
    Ledger (afterInquiries h run) (past ++ replies h run) := by
  induction run generalizing h past with
  | nil => exact (List.append_nil past).symm ▸ hl
  | cons q rest ih =>
      have := ih (hl.ask q)
      rwa [List.append_assoc] at this

/-- There are as many entries as keys that have been answered. -/
theorem size_eq (hl : Ledger h past) :
    h.resolutions.size = ((past.filter Reply.isAnswered).map Reply.key).dedup.length := by
  rw [show h.resolutions.size = h.resolutions.entries.keys.length from (List.length_map _).symm]
  refine ((List.perm_ext_iff_of_nodup hl.nodup (List.nodup_dedup _)).mpr fun key => ?_).length_eq
  rw [Table.mem_keys_iff, List.mem_dedup, List.mem_map]
  refine ⟨fun ⟨found, hk⟩ => ?_, fun ⟨r, hr, hk⟩ => ?_⟩
  · obtain ⟨r, hr, hk, ha⟩ := (hl.kept key found).mp hk
    exact ⟨r, List.mem_filter.mpr ⟨hr, by rw [Reply.isAnswered, ha]; rfl⟩, hk⟩
  · obtain ⟨hr, ha⟩ := List.mem_filter.mp hr
    cases e : r.answer with
    | error f => rw [Reply.isAnswered, e] at ha; cases ha
    | ok found => exact ⟨found, (hl.kept key found).mpr ⟨r, hr, hk, e⟩⟩

end Ledger

theorem length_replies (h : Host) (run : List Inquiry) : (replies h run).length = run.length := by
  induction run generalizing h with
  | nil => rfl
  | cons q rest ih => rw [replies, List.length_cons, List.length_cons, ih]

/-- Inquiries with other keys leave the answer to a key as it is. -/
theorem get?_afterInquiries {key : List Component × Option Text} {run : List Inquiry}
    (hk : ∀ q ∈ run, q.key ≠ key) (h : Host) :
    (afterInquiries h run).resolutions.entries.get? key = h.resolutions.entries.get? key := by
  induction run generalizing h with
  | nil => rfl
  | cons q rest ih =>
      have := ih (fun s hs => hk s (List.mem_cons_of_mem _ hs)) (q.ask h).2
      exact this.trans (q.get?_ask_of_ne h (hk q List.mem_cons_self).symm)

/-- **Answers are kept by their keys**, at any point of any run of a host, whatever happens to
the files.

* An answer that is no failure is also the answer to all later inquiries with its key, and two
  found modules are the same one exactly if their keys are equal.
* Keys are equal exactly if the references lead to the same path, or are the same name in the
  same directory, whatever the spellings.
* A failure adds no entry, and the next inquiry with its key is looked for again.
* Hits and misses count the inquiries, the entries count the keys that have been answered, and
  the misses are the entries and the failures. -/
theorem answers_kept_by_key (view : FileView) (config : ProjectConfig) (projectRoot : Path)
    (globals : List Path) (libDir : Option Path) (run : List Inquiry) :
    let new := Host.new view config projectRoot globals libDir
    let used := afterInquiries new run
    let past := replies new run
    past.Pairwise Reply.Agrees ∧
      (∀ q q' : Inquiry, q.key = q'.key ↔ q.place = q'.place) ∧
      (∀ q : Inquiry, (q.ask used).1.isOk = false →
        (q.ask used).2.resolutions.entries = used.resolutions.entries ∧
          ∀ between : List Inquiry, ∀ again : Inquiry,
            (∀ other ∈ between, other.key ≠ q.key) → again.key = q.key →
              let later := afterInquiries (q.ask used).2 between
              (again.ask later).1.map (Option.map Shared.value) = again.look later ∧
                (again.ask later).2.resolutions.misses = later.resolutions.misses + 1) ∧
      used.resolutions.hits + used.resolutions.misses = run.length ∧
      used.resolutions.size = ((past.filter Reply.isAnswered).map Reply.key).dedup.length ∧
      used.resolutions.misses =
        used.resolutions.size + past.countP fun r => !r.isAnswered := by
  intro new used past
  have hnew : Ledger new [] := Ledger.new view config projectRoot globals libDir
  have hused : Ledger used past := hnew.after run
  refine ⟨(hnew.agrees run).2, Inquiry.key_eq_key_iff, fun q he => ?_,
    hused.calls.trans (length_replies new run), hused.size_eq, hused.misses⟩
  obtain ⟨hn, hentries⟩ := q.ask_of_error he
  refine ⟨hentries, fun between again hother hk => again.ask_of_get?_eq_none ?_⟩
  rw [hk, get?_afterInquiries hother, hentries]
  exact hn

end ImportLint.Host
