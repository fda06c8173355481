import AgentMod.Verified.Protocol.Authorization
import AgentMod.Protocol.Replay

/-! Grants are accepted once across restarts and crashes, as long as no crash tears a snapshot. -/

namespace AgentMod

section Names

theorem twentyDigits_injective {left right : Nat} (same : twentyDigits left = twentyDigits right) : left = right := by
  have value (number : Nat) : Nat.ofDigitChars 10 (twentyDigits number) 0 = number := by
    rw [twentyDigits, Nat.ofDigitChars_append, Nat.ofDigitChars_replicate_zero, Nat.mul_zero,
      Nat.ofDigitChars_ten_toDigits]
  rw [← value left, ← value right, same]

theorem replayFile_injective {left right : Nat} (same : replayFile left = replayFile right) : left = right := by
  have characters := congrArg String.toList same
  simp only [replayFile, String.toList_append, String.toList_ofList, List.append_assoc] at characters
  exact twentyDigits_injective (List.append_inj_left' (List.append_cancel_left characters) rfl)

theorem extension_replayFile (generation : Nat) : extension (replayFile generation) = some "json" := by
  refine extension_append (fun same => ?_) (by decide)
  have characters := congrArg String.toList same
  simp [String.toList_append] at characters

end Names

section Removals

/-- A directory keeps its files, except for some that it may have lost. -/
def Thins (names : List String) (directory left : Directory) : Prop :=
  ∀ name, left[name]? = directory[name]? ∨ name ∈ names ∧ left[name]? = none

theorem Thins.refl (names : List String) (directory : Directory) : Thins names directory directory :=
  fun _ => .inl rfl

theorem Thins.found {names : List String} {directory left : Directory} {name : String} {bytes : List UInt8}
    (thins : Thins names directory left) (found : left[name]? = some bytes) : directory[name]? = some bytes := by
  rcases thins name with same | ⟨-, gone⟩
  · rwa [← same]
  · rw [gone] at found
    cases found

theorem Thins.kept {names : List String} {directory left : Directory} {name : String}
    (thins : Thins names directory left) (spared : name ∉ names) : left[name]? = directory[name]? := by
  rcases thins name with same | ⟨removed, -⟩
  · exact same
  · exact absurd removed spared

theorem thins_remove {names : List String} {name : String} {disk : Disk Unit} {left : Directory} (listed : name ∈ names)
    (thins : Thins names ((FileStep.remove () name).apply disk ()) left) : Thins names (disk ()) left := by
  intro other
  have removed := @remove_at Unit _ () () name other disk
  by_cases same : name = other
  · subst same
    rw [if_pos ⟨rfl, rfl⟩] at removed
    rcases thins name with kept | gone
    · exact .inr ⟨listed, kept.trans removed⟩
    · exact .inr gone
  · rw [if_neg fun both => same both.2] at removed
    rw [← removed]
    exact thins other

theorem thins_of_interrupted {names : List String} {disk left : Disk Unit}
    (crashes : Interrupted (names.map (.remove ())) disk left) : Thins names (disk ()) (left ()) := by
  have general : ∀ (gone : List String) (disk : Disk Unit), gone ⊆ names →
      Interrupted (gone.map (.remove ())) disk left → Thins names (disk ()) (left ()) := by
    intro gone
    induction gone with
    | nil =>
      intro disk _ crashes
      rw [interrupted_nil.mp crashes]
      exact .refl names _
    | cons name rest ih =>
      intro disk within crashes
      cases crashes with
      | stopped => exact .refl names _
      | passed later =>
        rw [List.cons_subset] at within
        exact thins_remove within.1 (ih _ within.2 later)
  exact general names disk (List.Subset.refl names) crashes

theorem removeFiles_apply (names : List String) (disk : Disk Unit) :
    ReplayHost.removeFiles names disk = (.ok (), names.map (.remove ())) := by
  rw [ReplayHost.removeFiles]
  induction names generalizing disk with
  | nil => rfl
  | cons name rest ih =>
    rw [List.forM_cons, Filing.perform_bind_apply, ih]
    rfl

theorem thins_removeFiles (names : List String) (disk : Disk Unit) :
    Thins names (disk ()) (applySteps (names.map (.remove ())) disk ()) :=
  thins_of_interrupted (Interrupted.complete _ _)

end Removals

namespace ReplayHost

variable {host : ReplayHost} {directory : Directory}

/-- The generations order the files. -/
instance : Std.TransCmp compareGenerations :=
  inferInstanceAs (Std.TransCmp (compareOn fun entry : String × ReplaySnapshot => entry.2.generation))

theorem readSnapshot_eq_ok {name : String} {result : Option (String × ReplaySnapshot)} :
    (do
      let bytes ← okOr directory[name]? .io
      let snapshot ← host.decode bytes
      return snapshot.map (name, ·)) = Except.ok result ↔
      ∃ bytes held, directory[name]? = some bytes ∧ host.decode bytes = .ok held ∧ result = held.map (name, ·) := by
  simp only [bind_eq_ok, okOr_eq_ok, pure_eq_ok]
  constructor
  · rintro ⟨bytes, found, held, decodes, same⟩
    exact ⟨bytes, held, found, decodes, same.symm⟩
  · rintro ⟨bytes, held, found, decodes, same⟩
    exact ⟨bytes, found, held, decodes, same.symm⟩

theorem readSnapshots_of (readable : ∀ name bytes, directory[name]? = some bytes → extension name = some "json" →
    ∃ held, host.decode bytes = .ok held) : ∃ snapshots, host.readSnapshots directory = .ok snapshots ∧
      ∀ name snapshot, (name, snapshot) ∈ snapshots ↔ extension name = some "json" ∧
        ∃ bytes, directory[name]? = some bytes ∧ host.decode bytes = .ok (some snapshot) := by
  obtain ⟨files, reads⟩ : ∃ files, (directory.listing "json").mapM (fun name => do
      let bytes ← okOr directory[name]? .io
      let snapshot ← host.decode bytes
      return snapshot.map (name, ·)) = Except.ok files := by
    refine mapM_isOk.mpr fun name listed => ?_
    obtain ⟨⟨bytes, found⟩, isJson⟩ := Directory.mem_listing.mp listed
    obtain ⟨held, decodes⟩ := readable name bytes found isJson
    exact ⟨_, readSnapshot_eq_ok.mpr ⟨bytes, held, found, decodes, rfl⟩⟩
  refine ⟨files.filterMap id, by rw [readSnapshots, reads]; rfl, fun name snapshot => ?_⟩
  have inside : (name, snapshot) ∈ files.filterMap id ↔ some (name, snapshot) ∈ files := by
    simp [List.mem_filterMap]
  rw [inside, mapM_mem reads]
  constructor
  · rintro ⟨other, listed, returned⟩
    obtain ⟨bytes, held, found, decodes, same⟩ := readSnapshot_eq_ok.mp returned
    obtain ⟨own, rfl, isOwn⟩ := Option.map_eq_some_iff.mp same.symm
    cases isOwn
    exact ⟨(Directory.mem_listing.mp listed).2, bytes, found, decodes⟩
  · rintro ⟨isJson, bytes, found, decodes⟩
    exact ⟨name, Directory.mem_listing.mpr ⟨⟨bytes, found⟩, isJson⟩,
      readSnapshot_eq_ok.mpr ⟨bytes, some snapshot, found, decodes, rfl⟩⟩

theorem readSnapshots_fails {name : String} {bytes : List UInt8} {error : GrantHostError}
    (found : directory[name]? = some bytes) (listed : extension name = some "json")
    (refused : host.decode bytes = .error error) : ∃ error, host.readSnapshots directory = .error error := by
  cases reads : host.readSnapshots directory with
  | error error => exact ⟨error, rfl⟩
  | ok snapshots =>
    rw [readSnapshots, bind_eq_ok] at reads
    obtain ⟨files, collected, -⟩ := reads
    obtain ⟨result, returned⟩ := mapM_isOk.mp ⟨files, collected⟩ name
      (Directory.mem_listing.mpr ⟨⟨bytes, found⟩, listed⟩)
    obtain ⟨other, held, again, decodes, -⟩ := readSnapshot_eq_ok.mp returned
    cases found.symm.trans again
    rw [refused] at decodes
    cases decodes

theorem last_of_highest {snapshots : List (String × ReplaySnapshot)} {latest : ReplaySnapshot}
    (below : ∀ entry ∈ snapshots, entry.2.generation < latest.generation ∨ entry.2 = latest)
    (present : latest = .new ∨ ∃ entry ∈ snapshots, entry.2 = latest) :
    ((sortBy compareGenerations snapshots).getLast?.map Prod.snd).getD .new = latest := by
  have same : (sortBy compareGenerations snapshots).Perm snapshots := sortBy_perm
  cases last : (sortBy compareGenerations snapshots).getLast? with
  | none =>
    rw [List.getLast?_eq_none_iff.mp last] at same
    rcases present with new | ⟨entry, member, -⟩
    · exact new.symm
    · cases same.symm.subset member
  | some entry =>
    obtain ⟨front, split⟩ := List.getLast?_eq_some_iff.mp last
    have sorted := @pairwise_sortBy _ compareGenerations snapshots _
    rw [split] at sorted same
    rcases below entry (same.subset (by simp)) with lower | isLatest
    · -- A lower generation is last only in front of a higher one, which is behind it.
      rcases present with new | ⟨other, member, isLatest⟩
      · rw [new] at lower
        exact absurd lower (Nat.not_lt_zero _)
      · rcases List.mem_append.mp (same.symm.subset member) with before | own
        · have ordered := (List.pairwise_append.mp sorted).2.2 other before entry List.mem_cons_self
          rw [compareGenerations, Nat.isLE_compare, isLatest] at ordered
          exact absurd lower (Nat.not_lt.mpr ordered)
        · rw [List.mem_singleton.mp own] at isLatest
          rw [← isLatest] at lower
          exact absurd lower (Nat.lt_irrefl _)
    · exact isLatest

/-- The bytes that a crash leaves of a snapshot that is being written. -/
def Torn (host : ReplayHost) (bytes : List UInt8) : Prop :=
  ∃ snapshot whole, host.encode snapshot = .ok whole ∧ bytes <+: whole ∧ bytes ≠ whole

/-- What the hosts rely on: snapshots are written and read back, a torn one is read as the given outcome, and what
verifies a grant fixes its claims and looks at the identity and at the time. -/
structure Lawful (host : ReplayHost) (tornAs : Except GrantHostError (Option ReplaySnapshot)) : Prop where
  encodes : ∀ snapshot, ∃ bytes, host.encode snapshot = .ok bytes
  reads : ∀ snapshot bytes, host.encode snapshot = .ok bytes → host.decode bytes = .ok (some snapshot)
  torn : ∀ bytes, host.Torn bytes → host.decode bytes = tornAs
  unread : ∀ snapshot, tornAs ≠ .ok (some snapshot)
  identity : ∀ request claims, host.verify request = .ok claims →
    claims.owner = host.config.ownerId ∧ claims.session = host.config.sessionId
  inTime : ∀ request claims, host.verify request = .ok claims → request.now ≤ claims.expiresAt
  determined : ∀ request other claims claims', host.verify request = .ok claims → host.verify other = .ok claims' →
    request.authorization.grant = other.authorization.grant → claims = claims'

/-- A disk holds a snapshot as the latest one, perhaps with earlier ones, and perhaps with a torn one behind it. -/
structure Stored (host : ReplayHost) (disk : Disk Unit) (latest : ReplaySnapshot) : Prop where
  files : ∀ name bytes, (disk ())[name]? = some bytes → extension name = some "json" →
    (∃ snapshot, name = replayFile snapshot.generation ∧ host.encode snapshot = .ok bytes ∧
      (snapshot.generation < latest.generation ∨ snapshot = latest)) ∨
    name = replayFile (latest.generation + 1) ∧ host.Torn bytes
  latest : latest = .new ∨
    ∃ bytes, host.encode latest = .ok bytes ∧ (disk ())[replayFile latest.generation]? = some bytes

section Loading

variable {tornAs : Except GrantHostError (Option ReplaySnapshot)} {disk left : Disk Unit} {latest : ReplaySnapshot}
  {removable : String → Bool}

theorem stored_fresh : host.Stored (fun _ => ∅) .new :=
  ⟨fun _ _ found => by simp at found, .inl rfl⟩

theorem Stored.thins (stored : host.Stored disk latest) {names : List String}
    (thins : Thins names (disk ()) (left ())) (spared : replayFile latest.generation ∉ names) :
    host.Stored left latest := by
  refine ⟨fun name bytes found isJson => stored.files name bytes (thins.found found) isJson, ?_⟩
  refine stored.latest.imp_right fun held => ?_
  obtain ⟨bytes, encodes, found⟩ := held
  exact ⟨bytes, encodes, (thins.kept spared).trans found⟩

theorem Stored.below (lawful : host.Lawful tornAs) (stored : host.Stored disk latest) {name : String}
    {bytes : List UInt8} {snapshot : ReplaySnapshot} (found : (disk ())[name]? = some bytes)
    (isJson : extension name = some "json") (decodes : host.decode bytes = .ok (some snapshot)) :
    name = replayFile snapshot.generation ∧
      (snapshot.generation < latest.generation ∨ snapshot = latest) := by
  rcases stored.files name bytes found isJson with ⟨whole, named, encodes, below⟩ | ⟨-, torn⟩
  · cases (lawful.reads whole bytes encodes).symm.trans decodes
    exact ⟨named, below⟩
  · rw [lawful.torn bytes torn] at decodes
    exact absurd decodes (lawful.unread snapshot)

theorem Stored.load (lawful : host.Lawful tornAs) (stored : host.Stored disk latest)
    (readable : ∀ name bytes, (disk ())[name]? = some bytes → extension name = some "json" →
      ∃ held, host.decode bytes = .ok held) : ∃ names : List String,
    (∀ name ∈ names, ∃ generation < latest.generation, name = replayFile generation) ∧
      host.loadReplayState removable disk = (.ok latest, names.map (.remove ())) := by
  obtain ⟨snapshots, reads, listed⟩ := readSnapshots_of readable
  have below : ∀ entry ∈ snapshots, entry.2.generation < latest.generation ∨ entry.2 = latest := by
    intro entry member
    obtain ⟨isJson, bytes, found, decodes⟩ := (listed entry.1 entry.2).mp member
    exact (stored.below lawful found isJson decodes).2
  have present : latest = .new ∨ ∃ entry ∈ snapshots, entry.2 = latest := by
    refine stored.latest.imp_right fun held => ?_
    obtain ⟨bytes, encodes, found⟩ := held
    exact ⟨(_, latest), (listed _ _).mpr ⟨extension_replayFile _, bytes, found, lawful.reads _ _ encodes⟩, rfl⟩
  have highest := last_of_highest below present
  refine ⟨(((sortBy compareGenerations snapshots).filter fun candidate =>
    decide (candidate.2.generation ≠ latest.generation)).map Prod.fst).filter removable, ?_, ?_⟩
  · intro name member
    obtain ⟨entry, old, rfl⟩ := List.mem_map.mp (List.mem_filter.mp member).1
    obtain ⟨sorted, differs⟩ := List.mem_filter.mp old
    obtain ⟨isJson, bytes, found, decodes⟩ := (listed entry.1 entry.2).mp (sortBy_perm.subset sorted)
    obtain ⟨named, lower | isLatest⟩ := stored.below lawful found isJson decodes
    · exact ⟨_, lower, named⟩
    · rw [isLatest] at differs
      exact absurd rfl (of_decide_eq_true differs)
  · rw [loadReplayState, Filing.read_bind_apply, reads, Filing.ofExcept_bind_apply, Filing.onOk_ok,
      highest, Filing.bind_apply_of_ok (removeFiles_apply _ _)]
    exact Prod.ext rfl (List.append_nil _)

theorem load_fails {name : String} {bytes : List UInt8} {error : GrantHostError} (found : (disk ())[name]? = some bytes)
    (listed : extension name = some "json") (refused : host.decode bytes = .error error) :
    ∃ error, host.loadReplayState removable disk = (.error error, []) := by
  obtain ⟨failure, fails⟩ := readSnapshots_fails found listed refused
  refine ⟨failure, ?_⟩
  rw [loadReplayState, Filing.read_bind_apply, fails, Filing.ofExcept_bind_apply, Filing.onOk_error]

end Loading

section Persisting

variable {tornAs : Except GrantHostError (Option ReplaySnapshot)} {disk left : Disk Unit}
  {latest snapshot : ReplaySnapshot} {removable : String → Bool} {bytes : List UInt8}

theorem persist_taken (encodes : host.encode snapshot = .ok bytes)
    (taken : (disk ()).contains (replayFile snapshot.generation)) :
    host.persistReplaySnapshot removable snapshot disk = (.error .io, []) := by
  rw [persistReplaySnapshot, encodes, Filing.ofExcept_bind_apply, Filing.onOk_ok, Filing.read_bind_apply,
    Filing.ofExcept_bind_apply, refuseIf, if_pos taken, Filing.onOk_error]

theorem persist_free (encodes : host.encode snapshot = .ok bytes)
    (free : (disk ())[replayFile snapshot.generation]? = none) : ∃ names : List String,
    replayFile snapshot.generation ∉ names ∧
      host.persistReplaySnapshot removable snapshot disk = (.ok (),
        .save () (replayFile snapshot.generation) bytes :: names.map (.remove ())) := by
  have untaken : ¬ (disk ()).contains (replayFile snapshot.generation) := by
    rw [StringMap.contains_iff, free]
    rintro ⟨content, found⟩
    cases found
  refine ⟨(((FileStep.save () (replayFile snapshot.generation) bytes).apply disk ()).listing "json").filter
    fun old => decide (old ≠ replayFile snapshot.generation) && removable old, ?_, ?_⟩
  · intro member
    have apart := (List.mem_filter.mp member).2
    simp at apart
  · rw [persistReplaySnapshot, encodes, Filing.ofExcept_bind_apply, Filing.onOk_ok, Filing.read_bind_apply,
      Filing.ofExcept_bind_apply, refuseIf, if_neg untaken, Filing.onOk_ok, Filing.perform_bind_apply,
      Filing.read_bind_apply, removeFiles_apply]

theorem Stored.free (stored : host.Stored disk latest)
    (whole : ∀ bytes, (disk ())[replayFile (latest.generation + 1)]? = some bytes → ¬ host.Torn bytes) :
    (disk ())[replayFile (latest.generation + 1)]? = none := by
  cases found : (disk ())[replayFile (latest.generation + 1)]? with
  | none => rfl
  | some bytes =>
    rcases stored.files _ _ found (extension_replayFile _) with ⟨other, named, -, below⟩ | ⟨-, torn⟩
    · have same := replayFile_injective named
      rcases below with lower | isLatest
      · omega
      · rw [isLatest] at same
        omega
    · exact absurd torn (whole bytes found)

theorem Stored.saved (stored : host.Stored disk latest) (next : snapshot.generation = latest.generation + 1)
    (encodes : host.encode snapshot = .ok bytes) {names : List String} (spared : replayFile snapshot.generation ∉ names)
    (thins : Thins names ((FileStep.save () (replayFile snapshot.generation) bytes).apply disk ()) (left ())) :
    host.Stored left snapshot := by
  refine Stored.thins ⟨fun name content found isJson => ?_, .inr ⟨bytes, encodes, ?_⟩⟩ thins spared
  · rw [save_at] at found
    split at found
    · rename_i own
      cases found
      exact .inl ⟨snapshot, own.2.symm, encodes, .inr rfl⟩
    · rename_i other
      rcases stored.files name content found isJson with ⟨whole, named, written, below⟩ | ⟨named, -⟩
      · refine .inl ⟨whole, named, written, .inl ?_⟩
        rcases below with lower | isLatest
        · omega
        · rw [isLatest]
          omega
      · exact absurd ⟨rfl, by rw [named, next]⟩ other
  · rw [save_at, if_pos ⟨rfl, rfl⟩]

theorem Stored.torn (stored : host.Stored disk latest) (next : snapshot.generation = latest.generation + 1)
    (encodes : host.encode snapshot = .ok bytes) {part : List UInt8} (front : part <+: bytes) (proper : part ≠ bytes) :
    host.Stored ((FileStep.save () (replayFile snapshot.generation) part).apply disk) latest := by
  refine ⟨fun name content found isJson => ?_, ?_⟩
  · rw [save_at] at found
    split at found
    · rename_i own
      cases found
      exact .inr ⟨by rw [← own.2, next], snapshot, bytes, encodes, front, proper⟩
    · exact stored.files name content found isJson
  · refine stored.latest.imp_right fun held => ?_
    obtain ⟨content, written, found⟩ := held
    refine ⟨content, written, ?_⟩
    rw [save_at, if_neg fun own => ?_]
    · exact found
    · have same := replayFile_injective own.2
      omega

end Persisting

section Authorizing

variable {tornAs : Except GrantHostError (Option ReplaySnapshot)} {disk left : Disk Unit}
  {replay next : ReplaySnapshot} {removable : String → Bool} {request : GrantRequest} {claims : AuthorizationClaims}
  {now : Int64}

theorem getElem?_unexpired {key : String} :
    (replay.unexpired now)[key]? = replay.nonces[key]?.filter fun expiry => decide (expiry ≥ now) := by
  rw [ReplaySnapshot.unexpired, Std.ExtTreeMap.getElem?_filter']

theorem nextSnapshot_eq_ok : host.nextSnapshot now claims replay = .ok next ↔
    (replay.unexpired now)[claims.nonceKey]? = none ∧ (replay.unexpired now).size < host.config.maxReplayEntries ∧
      replay.generation < 2 ^ 64 - 1 ∧
      next = ⟨replay.generation + 1, (replay.unexpired now).insert claims.nonceKey claims.expiresAt⟩ := by
  have absent : ¬ (replay.unexpired now).contains claims.nonceKey ↔
      (replay.unexpired now)[claims.nonceKey]? = none := by
    rw [StringMap.contains_iff, Option.eq_none_iff_forall_ne_some, not_exists]
  simp only [nextSnapshot, bind_eq_ok, exists_unit, refuseIf_eq_ok, pure_eq_ok, absent, ge_iff_le, not_le,
    eq_comm (a := next)]

theorem Admissible.recorded (admissible : host.Admissible replay request claims) : ∃ next,
    host.nextSnapshot request.now claims replay = .ok next ∧ next.generation = replay.generation + 1 :=
  ⟨_, nextSnapshot_eq_ok.mpr ⟨admissible.fresh, admissible.room, admissible.countable, rfl⟩, rfl⟩

/-- A call is refused without a step, or accepted with the next snapshot. -/
theorem authorize_cases (lawful : host.Lawful tornAs) (disk : Disk Unit) (removable : String → Bool)
    (request : GrantRequest) (replay : ReplaySnapshot) :
    (∃ error, host.authorize removable request replay disk = (.error error, [])) ∨
    ∃ claims next bytes, ∃ names : List String, host.verify request = .ok claims ∧
      host.nextSnapshot request.now claims replay = .ok next ∧ host.encode next = .ok bytes ∧
      replayFile next.generation ∉ names ∧ host.authorize removable request replay disk =
        (.ok (claims, next), .save () (replayFile next.generation) bytes :: names.map (.remove ())) := by
  cases verified : host.verify request with
  | error error =>
    refine .inl ⟨error, ?_⟩
    rw [ReplayHost.authorize, verified, Filing.ofExcept_bind_apply, Filing.onOk_error]
  | ok claims =>
    cases recorded : host.nextSnapshot request.now claims replay with
    | error error =>
      refine .inl ⟨error, ?_⟩
      rw [ReplayHost.authorize, verified, Filing.ofExcept_bind_apply, Filing.onOk_ok, recorded,
        Filing.ofExcept_bind_apply, Filing.onOk_error]
    | ok next =>
      obtain ⟨bytes, encodes⟩ := lawful.encodes next
      have goesOn : host.authorize removable request replay disk =
          (host.persistReplaySnapshot removable next >>= fun _ => pure (claims, next)) disk := by
        rw [ReplayHost.authorize, verified, Filing.ofExcept_bind_apply, Filing.onOk_ok, recorded,
          Filing.ofExcept_bind_apply, Filing.onOk_ok]
      cases found : (disk ())[replayFile next.generation]? with
      | some content =>
        refine .inl ⟨.io, ?_⟩
        rw [goesOn, Filing.bind_apply_of_quiet (persist_taken encodes (StringMap.contains_iff.mpr ⟨content, found⟩)),
          Filing.onOk_error]
      | none =>
        obtain ⟨names, spared, persists⟩ := @persist_free host disk next removable bytes encodes found
        refine .inr ⟨claims, next, bytes, names, rfl, recorded, encodes, spared, ?_⟩
        rw [goesOn, Filing.bind_apply_of_ok persists]
        exact Prod.ext rfl (List.append_nil _)

theorem Stored.accepts (lawful : host.Lawful tornAs) (stored : host.Stored disk replay)
    (whole : ∀ bytes, (disk ())[replayFile (replay.generation + 1)]? = some bytes → ¬ host.Torn bytes)
    (admissible : host.Admissible replay request claims) : ∃ next bytes, ∃ names : List String,
      next.generation = replay.generation + 1 ∧ host.encode next = .ok bytes ∧
        host.authorize removable request replay disk =
          (.ok (claims, next), .save () (replayFile next.generation) bytes :: names.map (.remove ())) := by
  obtain ⟨next, recorded, count⟩ := admissible.recorded
  obtain ⟨bytes, encodes⟩ := lawful.encodes next
  obtain ⟨names, -, persists⟩ := @persist_free host disk next removable bytes encodes (count ▸ stored.free whole)
  refine ⟨next, bytes, names, count, encodes, ?_⟩
  rw [ReplayHost.authorize, admissible.verified, Filing.ofExcept_bind_apply, Filing.onOk_ok, recorded,
    Filing.ofExcept_bind_apply, Filing.onOk_ok, Filing.bind_apply_of_ok persists]
  exact Prod.ext rfl (List.append_nil _)

theorem Stored.admits (lawful : host.Lawful tornAs) (stored : host.Stored disk replay)
    (whole : ∀ bytes, (disk ())[replayFile (replay.generation + 1)]? = some bytes → ¬ host.Torn bytes)
    (admissible : host.Admissible replay request claims) : ∃ next left,
    (host.authorize removable request replay).run disk = (.ok (claims, next), left) := by
  obtain ⟨next, bytes, names, -, -, returns⟩ := @Stored.accepts host tornAs disk replay removable request claims lawful
    stored whole admissible
  exact ⟨next, _, by rw [Filing.run, returns]⟩

theorem refuses_behind_torn (lawful : host.Lawful tornAs) (admissible : host.Admissible replay request claims)
    {content : List UInt8} (found : (disk ())[replayFile (replay.generation + 1)]? = some content) :
    (host.authorize removable request replay).run disk = (.error .io, disk) := by
  obtain ⟨next, recorded, count⟩ := admissible.recorded
  obtain ⟨bytes, encodes⟩ := lawful.encodes next
  have taken := @persist_taken host disk next removable bytes encodes
    (StringMap.contains_iff.mpr ⟨content, count ▸ found⟩)
  rw [Filing.run, ReplayHost.authorize, admissible.verified, Filing.ofExcept_bind_apply, Filing.onOk_ok, recorded,
    Filing.ofExcept_bind_apply, Filing.onOk_ok, Filing.bind_apply_of_quiet taken, Filing.onOk_error]
  rfl

end Authorizing

section Steps

variable {tornAs : Except GrantHostError (Option ReplaySnapshot)} {state next : GrantState}
  {latest : ReplaySnapshot} {action : GrantAction}

theorem Stored.load_cases (lawful : host.Lawful tornAs) {disk : Disk Unit} (stored : host.Stored disk latest)
    (removable : String → Bool) :
    (∃ error, host.loadReplayState removable disk = (.error error, [])) ∨ ∃ names : List String,
      (∀ name ∈ names, ∃ generation < latest.generation, name = replayFile generation) ∧
        host.loadReplayState removable disk = (.ok latest, names.map (.remove ())) := by
  by_cases readable : ∀ name bytes, (disk ())[name]? = some bytes → extension name = some "json" →
      ∃ held, host.decode bytes = .ok held
  · exact .inr (stored.load lawful readable)
  · push Not at readable
    obtain ⟨name, bytes, found, isJson, unreadable⟩ := readable
    cases refused : host.decode bytes with
    | ok held => exact absurd refused (unreadable held)
    | error error => exact .inl (load_fails found isJson refused)

theorem not_mem_removed {names : List String} {generation : Nat}
    (earlier : ∀ name ∈ names, ∃ other < latest.generation, name = replayFile other)
    (later : latest.generation ≤ generation) : replayFile generation ∉ names := by
  intro member
  obtain ⟨other, lower, same⟩ := earlier _ member
  rw [replayFile_injective same] at later
  omega

/-- Each accepted grant was verified, has expired or is recorded, and was accepted once. -/
structure Accounted (host : ReplayHost) (accepted : List (String × AuthorizationClaims)) (now : Int64)
    (latest : ReplaySnapshot) : Prop where
  verified : ∀ grant ∈ accepted, ∃ request, host.verify request = .ok grant.2 ∧
    request.authorization.grant = grant.1
  covered : ∀ grant ∈ accepted, grant.2.expiresAt < now ∨
    latest.nonces[grant.2.nonceKey]? = some grant.2.expiresAt
  distinct : (accepted.map Prod.snd).Nodup

theorem Accounted.later {accepted : List (String × AuthorizationClaims)} {now later : Int64}
    (accounted : host.Accounted accepted now latest) (after : now ≤ later) : host.Accounted accepted later latest where
  verified := accounted.verified
  covered := fun grant member =>
    (accounted.covered grant member).imp_left fun expired => Int64.lt_of_lt_of_le expired after
  distinct := accounted.distinct

theorem Accounted.recorded {accepted : List (String × AuthorizationClaims)} {now : Int64} {claims : AuthorizationClaims}
    {following : ReplaySnapshot} (accounted : host.Accounted accepted now latest)
    (recorded : host.nextSnapshot now claims latest = .ok following) : host.Accounted accepted now following where
  verified := accounted.verified
  covered := by
    intro grant member
    obtain ⟨absent, -, -, rfl⟩ := nextSnapshot_eq_ok.mp recorded
    by_cases expired : grant.2.expiresAt < now
    · exact .inl expired
    · have held := (accounted.covered grant member).resolve_left expired
      have kept : (latest.unexpired now)[grant.2.nonceKey]? = some grant.2.expiresAt := by
        rw [getElem?_unexpired, held, Option.filter_some, if_pos (decide_eq_true (Int64.not_lt.mp expired))]
      have apart : claims.nonceKey ≠ grant.2.nonceKey := by
        intro same
        rw [same, kept] at absent
        cases absent
      exact .inr (by rw [StringMap.getElem?_insert', if_neg apart, kept])
  distinct := accounted.distinct

/-- A grant that is accepted was not accepted before, and is recorded from then on. -/
theorem Accounted.accept (lawful : host.Lawful tornAs) {accepted : List (String × AuthorizationClaims)}
    {request : GrantRequest} {claims : AuthorizationClaims} {following : ReplaySnapshot}
    (accounted : host.Accounted accepted request.now latest) (verified : host.verify request = .ok claims)
    (recorded : host.nextSnapshot request.now claims latest = .ok following) :
    host.Accounted (accepted ++ [(request.authorization.grant, claims)]) request.now following where
  verified := by
    intro grant member
    rcases List.mem_append.mp member with before | own
    · exact accounted.verified grant before
    · rw [List.mem_singleton.mp own]
      exact ⟨request, verified, rfl⟩
  covered := by
    intro grant member
    rcases List.mem_append.mp member with before | own
    · exact (accounted.recorded recorded).covered grant before
    · obtain ⟨-, -, -, rfl⟩ := nextSnapshot_eq_ok.mp recorded
      rw [List.mem_singleton.mp own]
      exact .inr (by rw [StringMap.getElem?_insert', if_pos rfl])
  distinct := by
    rw [List.map_append, List.nodup_append]
    refine ⟨accounted.distinct, List.nodup_singleton claims, ?_⟩
    intro earlier member other own same
    rw [List.map_singleton, List.mem_singleton] at own
    obtain ⟨grant, before, isEarlier⟩ := List.mem_map.mp member
    rw [own] at same
    rw [same] at isEarlier
    have inTime := lawful.inTime request claims verified
    obtain ⟨absent, -⟩ := nextSnapshot_eq_ok.mp recorded
    rcases accounted.covered grant before with expired | held
    · rw [isEarlier] at expired
      exact absurd inTime (Int64.not_le.mpr expired)
    · rw [isEarlier] at held
      rw [getElem?_unexpired, held, Option.filter_some, if_pos (decide_eq_true inTime)] at absent
      cases absent

/-- What holds between two calls: the disk and the memory of a host hold the latest snapshot, which accounts for all
accepted grants. -/
structure Holds (host : ReplayHost) (state : GrantState) (latest : ReplaySnapshot) : Prop where
  stored : host.Stored state.disk latest
  memory : ∀ replay, state.replay = some replay → replay = latest
  accounted : host.Accounted state.accepted state.now latest

theorem holds_fresh (now : Int64) : host.Holds (.fresh now) .new where
  stored := stored_fresh
  memory := fun _ up => by cases up
  accounted := ⟨fun _ member => absurd member List.not_mem_nil, fun _ member => absurd member List.not_mem_nil,
    List.nodup_nil⟩

/-- Every step leaves a latest snapshot that accounts for all accepted grants. -/
theorem Holds.step (lawful : host.Lawful tornAs) (holds : host.Holds state latest)
    (step : host.Steps state action next) : ∃ latest, host.Holds next latest := by
  cases step with
  | started down loads =>
    rename_i removable replay disk
    rcases holds.stored.load_cases lawful removable with ⟨error, fails⟩ | ⟨names, earlier, returns⟩
    · rw [Filing.run, fails] at loads
      cases loads
    · rw [Filing.run, returns] at loads
      obtain ⟨same, rfl⟩ := Prod.mk.inj loads
      cases same
      refine ⟨latest, holds.stored.thins (thins_removeFiles names state.disk) (not_mem_removed earlier le_rfl), ?_,
        holds.accounted⟩
      exact fun replay same => (Option.some.inj same).symm
  | unstarted down fails =>
    rename_i removable error disk
    rcases holds.stored.load_cases lawful removable with ⟨error, failed⟩ | ⟨names, earlier, returns⟩
    · rw [Filing.run, failed] at fails
      obtain ⟨-, rfl⟩ := Prod.mk.inj fails
      exact ⟨latest, holds.stored, fun replay up => holds.memory replay up, holds.accounted⟩
    · rw [Filing.run, returns] at fails
      cases (Prod.mk.inj fails).1
  | stopped => exact ⟨latest, holds.stored, (fun _ up => by cases up), holds.accounted⟩
  | accepted up later runs =>
    rename_i removable request replay following disk claims
    cases holds.memory _ up
    have accounted := holds.accounted.later later
    rcases authorize_cases lawful state.disk removable request latest with
      ⟨error, refused⟩ | ⟨claims', following', bytes, names, verified, recorded, encodes, spared, returns⟩
    · rw [Filing.run, refused] at runs
      cases (Prod.mk.inj runs).1
    · rw [Filing.run, returns] at runs
      obtain ⟨same, rfl⟩ := Prod.mk.inj runs
      cases same
      obtain ⟨-, -, -, isNext⟩ := nextSnapshot_eq_ok.mp recorded
      refine ⟨following, holds.stored.saved (by rw [isNext]) encodes spared (thins_removeFiles names _), ?_,
        accounted.accept lawful verified recorded⟩
      exact fun replay same => (Option.some.inj same).symm
  | refused up later fails =>
    rename_i removable request replay disk error
    cases holds.memory _ up
    rcases authorize_cases lawful state.disk removable request latest with
      ⟨error, refused⟩ | ⟨claims, following, bytes, names, verified, recorded, encodes, spared, returns⟩
    · rw [Filing.run, refused] at fails
      obtain ⟨-, rfl⟩ := Prod.mk.inj fails
      exact ⟨latest, holds.stored, fun other up => holds.memory other up, holds.accounted.later later⟩
    · rw [Filing.run, returns] at fails
      cases (Prod.mk.inj fails).1
  | crashed up later crashes =>
    rename_i removable request replay left
    cases holds.memory _ up
    have accounted := holds.accounted.later later
    rw [Filing.Crashes] at crashes
    rcases authorize_cases lawful state.disk removable request latest with
      ⟨error, refused⟩ | ⟨claims, following, bytes, names, verified, recorded, encodes, spared, returns⟩
    · rw [refused, interrupted_nil] at crashes
      subst crashes
      exact ⟨latest, holds.stored, (fun _ up => by cases up), accounted⟩
    · rw [returns] at crashes
      obtain ⟨-, -, -, isNext⟩ := nextSnapshot_eq_ok.mp recorded
      have count : following.generation = latest.generation + 1 := by rw [isNext]
      cases crashes with
      | stopped => exact ⟨latest, holds.stored, (fun _ up => by cases up), accounted⟩
      | @torn _ _ _ part _ _ front =>
        by_cases whole : part = bytes
        · subst whole
          exact ⟨following, holds.stored.saved count encodes spared (.refl _ _), (fun _ up => by cases up),
            accounted.recorded recorded⟩
        · exact ⟨latest, holds.stored.torn count encodes front whole, (fun _ up => by cases up), accounted⟩
      | passed later =>
        exact ⟨following, holds.stored.saved count encodes spared (thins_of_interrupted later),
          (fun _ up => by cases up), accounted.recorded recorded⟩

theorem Intact.thins {names : List String} {disk left : Disk Unit} (intact : host.Intact disk)
    (thins : Thins names (disk ()) (left ())) : host.Intact left :=
  fun name bytes found isJson => intact name bytes (thins.found found) isJson

/-- A step that leaves no torn snapshot leaves a disk without any. -/
theorem Intact.step (lawful : host.Lawful tornAs) (holds : host.Holds state latest) (intact : host.Intact state.disk)
    (step : host.StepsIntact state action next) : host.Intact next.disk := by
  obtain ⟨step, leaves⟩ := step
  cases step with
  | started down loads =>
    rename_i removable replay disk
    rcases holds.stored.load_cases lawful removable with ⟨error, fails⟩ | ⟨names, -, returns⟩
    · rw [Filing.run, fails] at loads
      cases (Prod.mk.inj loads).1
    · rw [Filing.run, returns] at loads
      obtain ⟨-, rfl⟩ := Prod.mk.inj loads
      exact intact.thins (thins_removeFiles names state.disk)
  | unstarted down fails =>
    rename_i removable error disk
    rcases holds.stored.load_cases lawful removable with ⟨error, failed⟩ | ⟨names, -, returns⟩
    · rw [Filing.run, failed] at fails
      obtain ⟨-, rfl⟩ := Prod.mk.inj fails
      exact intact
    · rw [Filing.run, returns] at fails
      cases (Prod.mk.inj fails).1
  | stopped => exact intact
  | accepted up later runs =>
    rename_i removable request replay following disk claims
    rcases authorize_cases lawful state.disk removable request replay with
      ⟨error, refused⟩ | ⟨claims', following', bytes, names, -, -, encodes, -, returns⟩
    · rw [Filing.run, refused] at runs
      cases (Prod.mk.inj runs).1
    · rw [Filing.run, returns] at runs
      obtain ⟨-, rfl⟩ := Prod.mk.inj runs
      refine Intact.thins (fun name content found isJson => ?_) (thins_removeFiles names _)
      rw [save_at] at found
      split at found
      · cases found
        exact ⟨following', encodes⟩
      · exact intact name content found isJson
  | refused up later fails =>
    rename_i removable request replay disk error
    rcases authorize_cases lawful state.disk removable request replay with
      ⟨error, refused⟩ | ⟨claims, following, bytes, names, -, -, -, -, returns⟩
    · rw [Filing.run, refused] at fails
      obtain ⟨-, rfl⟩ := Prod.mk.inj fails
      exact intact
    · rw [Filing.run, returns] at fails
      cases (Prod.mk.inj fails).1
  | crashed up later crashes => exact leaves

theorem holds_of_run (lawful : host.Lawful tornAs) {start : Int64} {actions : List GrantAction} {finish : GrantState}
    (run : Run host.Steps (.fresh start) actions finish) : ∃ latest, host.Holds finish latest := by
  induction run with
  | nil => exact ⟨_, holds_fresh start⟩
  | snoc _ step ih =>
    obtain ⟨latest, holds⟩ := ih
    exact holds.step lawful step

theorem intact_of_run (lawful : host.Lawful tornAs) {start : Int64} {actions : List GrantAction} {finish : GrantState}
    (run : Run host.StepsIntact (.fresh start) actions finish) :
    (∃ latest, host.Holds finish latest) ∧ host.Intact finish.disk := by
  induction run with
  | nil => exact ⟨⟨_, holds_fresh start⟩, fun _ _ found => by simp [GrantState.fresh] at found⟩
  | snoc _ step ih =>
    obtain ⟨⟨latest, holds⟩, intact⟩ := ih
    exact ⟨holds.step lawful step.1, intact.step lawful holds step⟩

theorem not_torn (lawful : host.Lawful tornAs) {snapshot : ReplaySnapshot} {bytes : List UInt8}
    (encodes : host.encode snapshot = .ok bytes) : ¬ host.Torn bytes := by
  intro torn
  have reads := lawful.reads snapshot bytes encodes
  rw [lawful.torn bytes torn] at reads
  exact lawful.unread snapshot reads

theorem Lawful.protectsGrants (lawful : host.Lawful tornAs) (start : Int64) : host.ProtectsGrants start where
  once := by
    intro actions finish run
    obtain ⟨latest, holds⟩ := holds_of_run lawful run
    have accounted := holds.accounted
    refine ⟨?_, accounted.distinct⟩
    -- Equal grants have equal claims, which are accepted once.
    rw [List.Nodup, List.pairwise_map]
    refine (List.pairwise_map.mp accounted.distinct).imp_of_mem fun {left right} inLeft inRight apart same => ?_
    obtain ⟨request, verified, isLeft⟩ := accounted.verified left inLeft
    obtain ⟨other, verifies, isRight⟩ := accounted.verified right inRight
    exact apart (lawful.determined request other _ _ verified verifies (isLeft.trans (same.trans isRight.symm)))
  restarts := by
    intro actions finish run removable
    obtain ⟨⟨latest, holds⟩, intact⟩ := intact_of_run lawful run
    obtain ⟨names, -, returns⟩ := @Stored.load host tornAs finish.disk latest removable lawful holds.stored
      fun name bytes found isJson => by
        obtain ⟨snapshot, encodes⟩ := intact name bytes found isJson
        exact ⟨_, lawful.reads snapshot bytes encodes⟩
    exact ⟨latest, _, by rw [Filing.run, returns]⟩
  admits := by
    intro actions finish replay run up removable request claims admissible
    obtain ⟨⟨latest, holds⟩, intact⟩ := intact_of_run lawful run
    cases holds.memory replay up
    refine holds.stored.admits lawful (fun bytes found => ?_) admissible
    obtain ⟨snapshot, encodes⟩ := intact _ bytes found (extension_replayFile _)
    exact not_torn lawful encodes

theorem torn_of_crash (lawful : host.Lawful tornAs) {start : Int64} {actions : List GrantAction}
    {reached : GrantState} (run : Run host.StepsIntact (.fresh start) actions reached) {removable : String → Bool}
    {request : GrantRequest} {left : Disk Unit} (step : host.Steps reached (.crash removable request left) next)
    (tears : ¬ host.Intact left) : ∃ latest bytes, host.Stored left latest ∧
      (left ())[replayFile (latest.generation + 1)]? = some bytes ∧ host.Torn bytes := by
  obtain ⟨⟨earlier, before⟩, -⟩ := intact_of_run lawful run
  obtain ⟨latest, holds⟩ := before.step lawful step
  have isLeft : next.disk = left := by
    cases step
    rfl
  rw [Intact] at tears
  push Not at tears
  obtain ⟨name, bytes, found, isJson, unlike⟩ := tears
  rw [← isLeft] at found ⊢
  rcases holds.stored.files name bytes found isJson with ⟨whole, -, encodes, -⟩ | ⟨named, torn⟩
  · exact absurd encodes (unlike whole)
  · exact ⟨latest, bytes, holds.stored, named ▸ found, torn⟩

/-- A host that crashes in its first call may leave an empty file of the next snapshot. -/
theorem torn_first (lawful : host.Lawful tornAs) (nonempty : ∀ snapshot, host.encode snapshot ≠ .ok [])
    {start : Int64} {request : GrantRequest} {claims : AuthorizationClaims}
    (admissible : host.Admissible .new request claims) (later : start ≤ request.now) : ∃ actions left,
      Run host.Steps (.fresh start) actions ⟨left, none, request.now, []⟩ ∧ host.Stored left .new ∧
        (left ())[replayFile 1]? = some [] ∧ host.Torn [] := by
  have stored : host.Stored (GrantState.fresh start).disk .new := stored_fresh
  have absent (name : String) (bytes : List UInt8) : ((GrantState.fresh start).disk ())[name]? ≠ some bytes := by
    simp [GrantState.fresh]
  obtain ⟨names, earlier, returns⟩ := @Stored.load host tornAs _ _ (fun _ => true) lawful stored
    fun name bytes found => absurd found (absent name bytes)
  have nothing : names = [] := by
    refine List.eq_nil_iff_forall_not_mem.mpr fun name member => ?_
    obtain ⟨generation, lower, -⟩ := earlier name member
    exact absurd lower (Nat.not_lt_zero generation)
  have loads : (host.loadReplayState fun _ => true).run (GrantState.fresh start).disk =
      (.ok .new, (GrantState.fresh start).disk) := by
    rw [Filing.run, returns, nothing]
    rfl
  obtain ⟨next, bytes, removed, count, encodes, proceeds⟩ :=
    @Stored.accepts host tornAs _ _ (fun _ => true) request claims lawful stored
      (fun bytes found => absurd found (absent _ bytes)) admissible
  have front : ([] : List UInt8) <+: bytes := List.nil_prefix
  have proper : [] ≠ bytes := fun same => nonempty next (same ▸ encodes)
  have crashes : (host.authorize (fun _ => true) request .new).Crashes (GrantState.fresh start).disk
      ((FileStep.save () (replayFile next.generation) []).apply (GrantState.fresh start).disk) := by
    rw [Filing.Crashes, proceeds]
    exact .torn front
  have first : host.Steps (.fresh start) (.start fun _ => true) { GrantState.fresh start with replay := some .new } :=
    .started rfl loads
  have second : host.Steps { GrantState.fresh start with replay := some .new }
      (.crash (fun _ => true) request _) ⟨_, none, request.now, []⟩ := .crashed rfl later crashes
  refine ⟨_, _, .snoc (.snoc .nil first) second, ?_, ?_, next, bytes, encodes, front, proper⟩
  · exact stored.torn count encodes front proper
  · have own : next.generation = 1 := count
    rw [own, save_at, if_pos ⟨rfl, rfl⟩]

end Steps

end ReplayHost

section Hosts

variable [AuthorizationSerde] [KeyedHashing]

theorem verifyAuthorization_determined {token : String} {key : AuthorizationKey} {expected other : ExpectedAuthorization}
    {now later : Int64} {claims claims' : AuthorizationClaims}
    (verified : verifyAuthorization token key expected now = .ok claims)
    (again : verifyAuthorization token key other later = .ok claims') : claims = claims' := by
  simp only [verifyAuthorization, bind_eq_ok, exists_unit, mapError_eq_ok, refuseIf_eq_ok, okOr_eq_ok,
    pure_eq_ok] at verified again
  obtain ⟨-, -, payloadHex, hex, macHex, -, -, payload, decodes, _, -, -, -, _, parses, -, -, -, rfl⟩ := verified
  obtain ⟨-, -, payloadHex', hex', macHex', -, -, payload', decodes', _, -, -, -, _, parses', -, -, -, rfl⟩ := again
  cases hex.symm.trans hex'
  cases decodes.symm.trans decodes'
  exact Except.ok.inj (parses.symm.trans parses')

variable [Hashing]

theorem GrantHostConfig.identity_of_verified {config : GrantHostConfig} {request : GrantRequest}
    {claims : AuthorizationClaims} (matched : config.matchIdentity request = .ok ())
    (verified : config.verifyGrant request = .ok claims) :
    (claims.owner = config.ownerId ∧ claims.session = config.sessionId) ∧ request.now ≤ claims.expiresAt := by
  rw [matchIdentity, refuseIf_eq_ok, not_or, not_or, not_not, not_not] at matched
  obtain ⟨-, inTime, bound⟩ := verifyAuthorization_granted (mapError_eq_ok.mp verified)
  obtain ⟨owner, session, -⟩ := ExpectedAuthorization.mk.inj bound
  exact ⟨⟨owner.symm.trans matched.1, session.symm.trans matched.2.1⟩, Int64.le_iff_toInt_le.mpr inTime.2⟩

theorem GrantHostConfig.verifyProcess_eq_ok {config : GrantHostConfig} {request : GrantRequest}
    {claims : AuthorizationClaims} (verified : config.verifyProcess request = .ok claims) :
    config.matchIdentity request = .ok () ∧ config.verifyGrant request = .ok claims := by
  simp only [verifyProcess, bind_eq_ok, exists_unit] at verified
  obtain ⟨-, matched, -, verified⟩ := verified
  exact ⟨matched, verified⟩

theorem GrantHostConfig.verifyWeb_eq_ok {config : GrantHostConfig} {request : GrantRequest}
    {claims : AuthorizationClaims} (verified : config.verifyWeb request = .ok claims) :
    config.matchIdentity request = .ok () ∧ config.verifyGrant request = .ok claims := by
  simp only [verifyWeb, bind_eq_ok, exists_unit] at verified
  obtain ⟨matched, -, verified⟩ := verified
  exact ⟨matched, verified⟩

variable [ReplaySerde]

/-- The process host is lawful, and passes over torn snapshots. -/
theorem lawful_processHost (lawful : LawfulReplays) (config : GrantHostConfig) :
    (processHost config).Lawful (.ok none) where
  encodes := by
    intro snapshot
    obtain ⟨bytes, prints⟩ := lawful.prints snapshot
    exact ⟨bytes, mapError_eq_ok.mpr prints⟩
  reads := by
    intro snapshot bytes encodes
    have reads := lawful.reads snapshot bytes (mapError_eq_ok.mp encodes)
    simp only [processHost, reads]
    rfl
  torn := by
    rintro part ⟨snapshot, bytes, encodes, front, proper⟩
    obtain ⟨detail, fails⟩ := lawful.torn snapshot bytes part (mapError_eq_ok.mp encodes) front proper
    simp only [processHost, fails]
    rfl
  unread := by
    intro snapshot same
    cases same
  identity := fun request claims verified =>
    (GrantHostConfig.identity_of_verified (GrantHostConfig.verifyProcess_eq_ok verified).1
      (GrantHostConfig.verifyProcess_eq_ok verified).2).1
  inTime := fun request claims verified =>
    (GrantHostConfig.identity_of_verified (GrantHostConfig.verifyProcess_eq_ok verified).1
      (GrantHostConfig.verifyProcess_eq_ok verified).2).2
  determined := by
    intro request other claims claims' verified again same
    have first := mapError_eq_ok.mp (GrantHostConfig.verifyProcess_eq_ok verified).2
    have second := mapError_eq_ok.mp (GrantHostConfig.verifyProcess_eq_ok again).2
    rw [same] at first
    exact verifyAuthorization_determined first second

/-- The web host is lawful, and refuses torn snapshots. -/
theorem lawful_webHost (lawful : LawfulReplays) (config : GrantHostConfig) :
    (webHost config).Lawful (.error .replayState) where
  encodes := by
    intro snapshot
    obtain ⟨payload, prints⟩ := lawful.prints snapshot
    obtain ⟨bytes, printed⟩ := lawful.printsEnvelope ⟨snapshot, (Hashing.digest payload).toHex⟩
    exact ⟨bytes, bind_eq_ok.mpr ⟨payload, mapError_eq_ok.mpr prints, mapError_eq_ok.mpr printed⟩⟩
  reads := by
    intro snapshot bytes encodes
    obtain ⟨payload, prints, printed⟩ := bind_eq_ok.mp encodes
    have reads := lawful.readsEnvelope _ bytes (mapError_eq_ok.mp printed)
    have again := mapError_eq_ok.mp prints
    simp only [webHost, decodeEnvelope, bind_eq_ok, mapError_eq_ok, exists_unit, refuseIf_eq_ok, pure_eq_ok]
    exact ⟨_, reads, payload, again, fun unlike => unlike rfl, rfl⟩
  torn := by
    rintro part ⟨snapshot, bytes, encodes, front, proper⟩
    obtain ⟨payload, prints, printed⟩ := bind_eq_ok.mp encodes
    obtain ⟨detail, fails⟩ := lawful.tornEnvelope _ bytes part (mapError_eq_ok.mp printed) front proper
    simp only [webHost, decodeEnvelope, fails]
    rfl
  unread := by
    intro snapshot same
    cases same
  identity := fun request claims verified =>
    (GrantHostConfig.identity_of_verified (GrantHostConfig.verifyWeb_eq_ok verified).1
      (GrantHostConfig.verifyWeb_eq_ok verified).2).1
  inTime := fun request claims verified =>
    (GrantHostConfig.identity_of_verified (GrantHostConfig.verifyWeb_eq_ok verified).1
      (GrantHostConfig.verifyWeb_eq_ok verified).2).2
  determined := by
    intro request other claims claims' verified again same
    have first := mapError_eq_ok.mp (GrantHostConfig.verifyWeb_eq_ok verified).2
    have second := mapError_eq_ok.mp (GrantHostConfig.verifyWeb_eq_ok again).2
    rw [same] at first
    exact verifyAuthorization_determined first second

theorem processHost_refuses (lawful : LawfulReplays) {config : GrantHostConfig} {left : Disk Unit}
    {latest : ReplaySnapshot} {bytes : List UInt8} (stored : (processHost config).Stored left latest)
    (found : (left ())[replayFile (latest.generation + 1)]? = some bytes) (removable : String → Bool) : ∃ disk,
    ((processHost config).loadReplayState removable).run left = (.ok latest, disk) ∧
      ∀ removable request claims, (processHost config).Admissible latest request claims →
        ((processHost config).authorize removable request latest).run disk = (.error .io, disk) := by
  have process := lawful_processHost lawful config
  obtain ⟨names, earlier, returns⟩ := @ReplayHost.Stored.load _ _ _ _ removable process stored fun _ _ _ _ => ⟨_, rfl⟩
  refine ⟨_, by rw [Filing.run, returns], fun removable request claims admissible => ?_⟩
  have kept := (thins_removeFiles names left).kept
    (ReplayHost.not_mem_removed earlier (Nat.le_succ latest.generation))
  exact ReplayHost.refuses_behind_torn process admissible (kept.trans found)

theorem webHost_fails (lawful : LawfulReplays) {config : GrantHostConfig} {left : Disk Unit} {generation : Nat}
    {bytes : List UInt8} (found : (left ())[replayFile generation]? = some bytes)
    (torn : (webHost config).Torn bytes) (removable : String → Bool) : ∃ error,
    ((webHost config).loadReplayState removable).run left = (.error error, left) := by
  obtain ⟨error, fails⟩ := @ReplayHost.load_fails _ _ removable _ _ _ found (extension_replayFile _)
    ((lawful_webHost lawful config).torn bytes torn)
  exact ⟨error, by rw [Filing.run, fails]; rfl⟩

/-- Both hosts accept every grant once, across restarts and crashes, and go on as long as no crash tears a snapshot.
Behind a crash that does, the process host refuses every new grant, and the web host cannot be started. -/
theorem grants_protected (lawful : LawfulReplays) (config : GrantHostConfig) (start : Int64) :
    ((processHost config).ProtectsGrants start ∧ (webHost config).ProtectsGrants start) ∧
    (∀ actions reached removable request left next,
      Run (processHost config).StepsIntact (.fresh start) actions reached →
      (processHost config).Steps reached (.crash removable request left) next → ¬ (processHost config).Intact left →
      ∀ removable, ∃ replay disk, ((processHost config).loadReplayState removable).run left = (.ok replay, disk) ∧
        ∀ removable request claims, (processHost config).Admissible replay request claims →
          ((processHost config).authorize removable request replay).run disk = (.error .io, disk)) ∧
    ∀ actions reached removable request left next, Run (webHost config).StepsIntact (.fresh start) actions reached →
      (webHost config).Steps reached (.crash removable request left) next → ¬ (webHost config).Intact left →
      ∀ removable, ∃ error, ((webHost config).loadReplayState removable).run left = (.error error, left) := by
  have process := lawful_processHost lawful config
  have web := lawful_webHost lawful config
  refine ⟨⟨process.protectsGrants start, web.protectsGrants start⟩, ?_, ?_⟩
  · intro actions reached _ _ left next run step tears removable
    obtain ⟨latest, bytes, stored, found, -⟩ := ReplayHost.torn_of_crash process run step tears
    obtain ⟨disk, loads, refuses⟩ := processHost_refuses lawful stored found removable
    exact ⟨latest, disk, loads, refuses⟩
  · intro actions reached _ _ left next run step tears
    obtain ⟨latest, bytes, -, found, torn⟩ := ReplayHost.torn_of_crash web run step tears
    exact webHost_fails lawful found torn

end Hosts

section Sample

attribute [local instance] briefAuthorization prefixKeyedHash prefixHash segmentedReplays

theorem lawful_segmentedReplays : LawfulReplays where
  prints := fun _ => ⟨_, rfl⟩
  reads := fun _ _ => snapshotCodec.reads
  torn := fun _ _ _ => snapshotCodec.torn
  printsEnvelope := fun _ => ⟨_, rfl⟩
  readsEnvelope := fun _ _ => envelopeCodec.reads
  tornEnvelope := fun _ _ _ => envelopeCodec.torn

/-- Both hosts of the sample protect grants. -/
theorem grants_protected_sample :
    ((processHost sampleGrantHost).ProtectsGrants 0 ∧ (webHost sampleGrantHost).ProtectsGrants 0) ∧
    (∀ actions reached removable request left next,
      Run (processHost sampleGrantHost).StepsIntact (.fresh 0) actions reached →
      (processHost sampleGrantHost).Steps reached (.crash removable request left) next →
      ¬ (processHost sampleGrantHost).Intact left →
      ∀ removable, ∃ replay disk,
        ((processHost sampleGrantHost).loadReplayState removable).run left = (.ok replay, disk) ∧
        ∀ removable request claims, (processHost sampleGrantHost).Admissible replay request claims →
          ((processHost sampleGrantHost).authorize removable request replay).run disk = (.error .io, disk)) ∧
    ∀ actions reached removable request left next,
      Run (webHost sampleGrantHost).StepsIntact (.fresh 0) actions reached →
      (webHost sampleGrantHost).Steps reached (.crash removable request left) next →
      ¬ (webHost sampleGrantHost).Intact left →
      ∀ removable, ∃ error, ((webHost sampleGrantHost).loadReplayState removable).run left = (.error error, left) :=
  grants_protected lawful_segmentedReplays sampleGrantHost 0

/-- A request with the sealed grant of the sample. -/
def sampleGrantRequest : GrantRequest where
  authorization := {
    ownerId := "local-user"
    sessionId := "session-1"
    callId := "call-1"
    action := "filesystem.write"
    normalizedDigest := (Hashing.digest ([] : List UInt8)).toHex
    grant := grantToken [0] (KeyedHashing.keyedHash sampleKey [0]).bytes.toList
    cancellationId := "cancel-1"
    canonicalOperation := [] }
  expectedAction := "filesystem.write"
  canonicalOperation := []
  now := 1500

theorem verifyGrant_sample : sampleGrantHost.verifyGrant sampleGrantRequest = .ok briefClaims := by
  have valid : validateClaims briefClaims = .ok () := by decide
  have covers : briefClaims.Covers 1500 := by
    rw [AuthorizationClaims.Covers]
    decide
  exact mapError_eq_ok.mpr ((verifyAuthorization_grantToken (by decide)).mpr ⟨rfl, valid, covers, rfl⟩)

theorem admissible_sample {host : ReplayHost} (verified : host.verify sampleGrantRequest = .ok briefClaims)
    (room : 0 < host.config.maxReplayEntries) : host.Admissible .new sampleGrantRequest briefClaims where
  verified
  fresh := by simp [ReplaySnapshot.unexpired, ReplaySnapshot.new]
  room := by
    exact Nat.lt_of_le_of_lt Std.ExtTreeMap.size_filter_le_size room
  countable := by decide

theorem admissible_processHost_sample :
    (processHost sampleGrantHost).Admissible .new sampleGrantRequest briefClaims := by
  refine admissible_sample ?_ (by decide)
  have shaped : validateAuthorizationShape sampleGrantRequest.authorization = .ok () := by decide
  have matched : sampleGrantHost.matchIdentity sampleGrantRequest = .ok () := by decide
  simp only [processHost, GrantHostConfig.verifyProcess, shaped, matched, verifyGrant_sample, bind_eq_ok, exists_unit,
    refuseIf_eq_ok, constantTimeEqual_iff, not_not, and_true, true_and]
  rfl

theorem admissible_webHost_sample :
    (webHost sampleGrantHost).Admissible .new sampleGrantRequest briefClaims := by
  refine admissible_sample ?_ (by decide)
  have matched : sampleGrantHost.matchIdentity sampleGrantRequest = .ok () := by decide
  simp only [webHost, GrantHostConfig.verifyWeb, matched, verifyGrant_sample, bind_eq_ok, exists_unit, refuseIf_eq_ok,
    ne_eq, not_not, and_true, true_and]
  rfl

/-- After a crash that leaves an empty file of a snapshot, the process host refuses a valid grant that is new, and the
web host is not started again. -/
theorem not_grants_protected :
    (∃ actions finish replay, Run (processHost sampleGrantHost).Steps (.fresh 0) actions finish ∧
      finish.replay = some replay ∧ (processHost sampleGrantHost).Admissible replay sampleGrantRequest briefClaims ∧
      ∀ removable, ((processHost sampleGrantHost).authorize removable sampleGrantRequest replay).run finish.disk =
        (.error .io, finish.disk)) ∧
    ∃ actions finish, Run (webHost sampleGrantHost).Steps (.fresh 0) actions finish ∧ finish.replay = none ∧
      ∀ removable, ∃ error,
        ((webHost sampleGrantHost).loadReplayState removable).run finish.disk = (.error error, finish.disk) := by
  have later : (0 : Int64) ≤ sampleGrantRequest.now := by decide
  constructor
  · have lawful := lawful_processHost lawful_segmentedReplays sampleGrantHost
    have nonempty (snapshot : ReplaySnapshot) : (processHost sampleGrantHost).encode snapshot ≠ .ok [] := by
      intro empty
      have reads := lawful.reads snapshot [] empty
      have skipped : (processHost sampleGrantHost).decode [] = .ok none := rfl
      rw [skipped] at reads
      cases reads
    obtain ⟨actions, left, run, stored, found, torn⟩ :=
      ReplayHost.torn_first lawful nonempty admissible_processHost_sample later
    obtain ⟨disk, loads, refuses⟩ := processHost_refuses lawful_segmentedReplays stored found fun _ => true
    exact ⟨_, _, _, .snoc run (.started rfl loads), rfl, admissible_processHost_sample, fun removable =>
      refuses removable _ _ admissible_processHost_sample⟩
  · have lawful := lawful_webHost lawful_segmentedReplays sampleGrantHost
    have nonempty (snapshot : ReplaySnapshot) : (webHost sampleGrantHost).encode snapshot ≠ .ok [] := by
      intro empty
      have reads := lawful.reads snapshot [] empty
      have refused : (webHost sampleGrantHost).decode [] = .error .replayState := rfl
      rw [refused] at reads
      cases reads
    obtain ⟨actions, left, run, -, found, torn⟩ :=
      ReplayHost.torn_first lawful nonempty admissible_webHost_sample later
    exact ⟨_, _, run, rfl, webHost_fails lawful_segmentedReplays found torn⟩

end Sample

end AgentMod
