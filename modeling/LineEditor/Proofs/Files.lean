import LineEditor.Files

/-!
What is written to a file is read back from it. The names of a path lead through directories only,
and what is written to is none, so the path leads to the same place afterwards.
-/

namespace LineEditor.Files

variable {files after : Files} {location other : Location} {path : Text} {content old : Bytes}

/-- The path names a file with this content. -/
def Holds (files : Files) (path : Text) (content : Bytes) : Prop :=
  ∃ location, files.locate path = .ok (location, false)
    ∧ files.look location = .ok (some (.file content))

/-- Where the path leads, this may be done. -/
def Allows (files : Files) (purpose : Purpose) (path : Text) : Prop :=
  ∀ location slash, files.locate path = .ok (location, slash) →
    files.forbidden purpose location = none

/-- Where the path leads, what is written is kept. -/
def IsRegular (files : Files) (path : Text) : Prop :=
  ∀ location slash refusal, files.locate path = .ok (location, slash) →
    files.find? location ≠ some (.sink refusal)

/-! ### One entry is put in place of another -/

theorem lookup_filter_other {entries : List (Location × Entry)} (different : other ≠ location) :
    (entries.filter fun (found, _) => found ≠ location).lookup other = entries.lookup other := by
  induction entries with
  | nil => rfl
  | cons first rest ih =>
    obtain ⟨found, entry⟩ := first
    by_cases same : found = location
    · subst same
      rw [List.filter_cons_of_neg (by simp), ih, List.lookup_cons,
        beq_eq_false_iff_ne.2 different]
    · rw [List.filter_cons_of_pos (by simpa using same), List.lookup_cons, List.lookup_cons, ih]

theorem put_other (entry : Entry) (different : other ≠ location) :
    find? (files.put location entry) other = files.find? other := by
  unfold find?
  split
  · rfl
  · rw [put, List.lookup_cons, beq_eq_false_iff_ne.2 different]
    exact lookup_filter_other different

theorem put_self (entry : Entry) (below : location ≠ []) :
    find? (files.put location entry) location = some entry := by
  unfold find?
  rw [if_neg below, put, List.lookup_cons, beq_self_eq_true]

theorem ne_root (notThere : files.find? location ≠ some .directory) : location ≠ [] := by
  rintro rfl
  exact notThere rfl

/-! ### Following a path -/

theorem look_eq_ok_iff {entry : Option Entry} :
    files.look location = .ok entry
      ↔ ¬location.getLast?.any isTooLong = true ∧ files.find? location = entry := by
  unfold look
  split <;> simp_all

theorem permit_eq_ok_iff {purpose : Purpose} :
    files.permit purpose location = .ok () ↔ files.forbidden purpose location = none := by
  unfold permit
  cases files.forbidden purpose location <;> simp

theorem enter_eq_ok_iff :
    files.enter location = .ok ()
      ↔ files.look location = .ok (some .directory)
        ∧ files.forbidden .entering location = none := by
  rw [← permit_eq_ok_iff]
  unfold enter
  rcases files.look location with refusal | _ | (_ | _ | _ | _) <;>
    simp [bind, Except.bind, throw, throwThe, MonadExceptOf.throw]

theorem follow_cons_eq_ok_iff {name : Text} {rest : List Text} {start final : Location} :
    files.follow start (name :: rest) = .ok final
      ↔ files.enter start = .ok () ∧ files.follow (step start name) rest = .ok final := by
  rw [follow]
  cases files.enter start with
  | error refusal => exact ⟨nofun, fun followed => nomatch followed.1⟩
  | ok _ => exact ⟨fun followed => ⟨rfl, followed⟩, fun followed => followed.2⟩

def start (files : Files) (path : Text) : Location :=
  if path.head? = some '/' then [] else files.working

/-- A text that can be a path, whatever files there are. -/
def IsPath (path : Text) : Prop :=
  '\x00' ∉ path ∧ path ≠ [] ∧ (Utf8.encode path).length ≤ pathLimit

theorem locate_of_isPath (isPath : IsPath path) (files : Files) :
    files.locate path = (files.follow (files.start path) (names path)).map
      fun location => (location, decide (path.getLast? = some '/')) := by
  obtain ⟨noNul, notEmpty, short⟩ := isPath
  unfold locate
  rw [if_neg (by simpa using noNul), if_neg notEmpty, if_neg (Nat.not_lt.2 short)]
  change (files.follow (files.start path) (names path) >>= _) = _
  cases files.follow (files.start path) (names path) <;> rfl

theorem locate_of_not_isPath (notPath : ¬IsPath path) (notEmpty : path ≠ []) :
    ∃ refusal, refusal ≠ .noSuchFile ∧ ∀ files : Files, files.locate path = .error refusal := by
  by_cases nul : '\x00' ∈ path
  · refine ⟨.nulInName, nofun, fun files => ?_⟩
    unfold locate
    rw [if_pos (by simpa using nul)]
    rfl
  · have long : pathLimit < (Utf8.encode path).length :=
      Nat.lt_of_not_le fun short => notPath ⟨nul, notEmpty, short⟩
    refine ⟨.nameTooLong, nofun, fun files => ?_⟩
    unfold locate
    rw [if_neg (by simpa using nul), if_neg notEmpty, if_pos long]
    rfl

-- What is wrong with a path shows in its text, or where its names lead.
theorem locate_eq_ok_iff {found : Location × Bool} :
    files.locate path = .ok found ↔
      IsPath path ∧ files.follow (files.start path) (names path) = .ok found.1
        ∧ decide (path.getLast? = some '/') = found.2 := by
  by_cases isPath : IsPath path
  · rw [locate_of_isPath isPath]
    obtain ⟨final, slash⟩ := found
    cases files.follow (files.start path) (names path) <;> simp [isPath, Except.map]
  · refine ⟨fun located => ?_, fun located => absurd located.1 isPath⟩
    by_cases empty : path = []
    · subst empty
      cases located
    · obtain ⟨refusal, -, refused⟩ := locate_of_not_isPath isPath empty
      rw [refused] at located
      cases located

/-- Every directory is one still, and what may be done is the same. -/
structure KeepsWays (files after : Files) : Prop where
  directory : ∀ location, files.find? location = some .directory →
    after.find? location = some .directory
  forbidden : after.forbidden = files.forbidden
  working : after.working = files.working

namespace KeepsWays

theorem put (notThere : files.find? location ≠ some .directory) (entry : Entry) :
    files.KeepsWays (files.put location entry) where
  directory other there := by
    have different : other ≠ location := by
      rintro rfl
      exact notThere there
    rwa [put_other entry different]
  forbidden := rfl
  working := rfl

theorem enter (keeps : files.KeepsWays after) (entered : files.enter location = .ok ()) :
    after.enter location = .ok () := by
  rw [enter_eq_ok_iff, look_eq_ok_iff] at entered ⊢
  obtain ⟨⟨short, there⟩, allowed⟩ := entered
  exact ⟨⟨short, keeps.directory location there⟩, keeps.forbidden ▸ allowed⟩

theorem follow (keeps : files.KeepsWays after) {names : List Text} {start final : Location}
    (followed : files.follow start names = .ok final) : after.follow start names = .ok final := by
  induction names generalizing start with
  | nil => exact followed
  | cons name rest ih =>
    rw [follow_cons_eq_ok_iff] at followed ⊢
    exact ⟨keeps.enter followed.1, ih followed.2⟩

theorem start (keeps : files.KeepsWays after) (path : Text) :
    after.start path = files.start path := by
  rw [Files.start, Files.start, keeps.working]

theorem locate (keeps : files.KeepsWays after) {found : Location × Bool}
    (located : files.locate path = .ok found) : after.locate path = .ok found := by
  rw [locate_eq_ok_iff] at located ⊢
  obtain ⟨isPath, followed, slash⟩ := located
  exact ⟨isPath, keeps.start path ▸ keeps.follow followed, slash⟩

end KeepsWays

/-! ### Reading -/

theorem openEntry_of_holds (holds : files.Holds path content)
    (readable : files.Allows .reading path) :
    files.openEntry path = .ok (.file content) := by
  obtain ⟨location, located, there⟩ := holds
  have allowed := permit_eq_ok_iff.2 (readable location false located)
  simp [openEntry, located, there, allowed, bind, Except.bind, pure, Except.pure]

theorem read_of_openEntry (opened : files.openEntry path = .ok (.file content)) :
    files.read path = .ok content := by
  rw [read, opened]
  rfl

/-! ### Writing -/

theorem store_eq (files : Files) (location : Location) (content : Bytes) :
    ∃ stored storage, (files.store location content).2
        = { files.put location (.file stored) with storage }
      ∧ ((files.store location content).1 = .ok () → stored = content) := by
  unfold store
  split
  · next empty => exact ⟨[], files.storage, rfl, fun _ => empty.symm⟩
  · dsimp only
    cases files.storage 0 location content with
    | taken => exact ⟨content, _, rfl, fun _ => rfl⟩
    | refused count cause => exact ⟨content.take count, _, rfl, nofun⟩

theorem store_keepsWays (notThere : files.find? location ≠ some .directory) (content : Bytes) :
    files.KeepsWays (files.store location content).2 := by
  obtain ⟨stored, storage, left, -⟩ := store_eq files location content
  rw [left]
  exact ⟨(KeepsWays.put notThere (.file stored)).directory, rfl, rfl⟩

theorem store_taken (room : files.storage 0 location content = .taken) :
    (files.store location content).1 = .ok () := by
  unfold store
  split
  · rfl
  · dsimp only
    rw [room]

theorem target_of_look {entry : Option Entry} (located : files.locate path = .ok (location, false))
    (looked : files.look location = .ok entry) (other : entry ≠ some .directory) :
    files.target path = (files.permit .writing location).map fun _ => (location, entry) := by
  unfold target
  rw [located]
  simp only [bind, Except.bind, looked]
  rcases entry with _ | (_ | _ | _ | _)
  case some.directory => exact absurd rfl other
  all_goals cases files.permit .writing location <;> rfl

theorem of_target {entry : Option Entry} (found : files.target path = .ok (location, entry)) :
    files.locate path = .ok (location, false) ∧ files.look location = .ok entry
      ∧ entry ≠ some .directory ∧ files.forbidden .writing location = none := by
  cases located : files.locate path with
  | error refusal =>
    rw [target, located] at found
    cases found
  | ok place =>
    obtain ⟨place, _ | _⟩ := place
    · cases looked : files.look place with
      | error refusal =>
        simp only [target, located, bind, Except.bind, looked] at found
        cases found
      | ok there =>
        by_cases other : there = some .directory
        · simp only [target, located, bind, Except.bind, looked, other] at found
          cases found
        · rw [target_of_look located looked other] at found
          cases allowed : files.permit .writing place with
          | error refusal =>
            rw [allowed] at found
            cases found
          | ok _ =>
            rw [allowed] at found
            cases found
            exact ⟨rfl, looked, other, permit_eq_ok_iff.1 allowed⟩
    · simp only [target, located, bind, Except.bind] at found
      cases found

theorem write_of_target {entry : Option Entry} (found : files.target path = .ok (location, entry))
    (regular : ∀ refusal, entry ≠ some (.sink refusal)) (content : Bytes) :
    files.write path content = files.store location content := by
  rw [write, found]
  rcases entry with _ | (_ | _ | _ | refusal)
  case some.sink => exact absurd rfl (regular refusal)
  all_goals rfl

/-- What is written to a regular file is its content from then on. -/
theorem holds_of_write (regular : files.IsRegular path)
    (ran : files.write path content = (.ok (), after)) : after.Holds path content := by
  cases found : files.target path with
  | error refusal =>
    rw [write, found] at ran
    cases ran
  | ok place =>
    obtain ⟨location, entry⟩ := place
    obtain ⟨located, looked, other, -⟩ := of_target found
    obtain ⟨short, there⟩ := look_eq_ok_iff.1 looked
    have kept : ∀ refusal, entry ≠ some (.sink refusal) :=
      fun refusal => there ▸ regular location false refusal located
    have notThere : files.find? location ≠ some .directory := there ▸ other
    obtain ⟨stored, storage, left, whole⟩ := store_eq files location content
    have keeps := store_keepsWays notThere content
    rw [write_of_target found kept] at ran
    rw [ran] at left whole keeps
    obtain rfl := whole rfl
    refine ⟨location, keeps.locate located, look_eq_ok_iff.2 ⟨short, ?_⟩⟩
    rw [show after = _ from left]
    exact @put_self files location (.file stored) (ne_root notThere)

end LineEditor.Files
