import GrammarLint.Proofs.ResolvedPaths

/-!
# What a pattern finds

A search goes through directories one after the other and may be stopped on the
way, with what it has found so far. `Search.Meets` says what it is to find: all
of it, or some of it and a fault that explains the rest. Every way of putting
searches together has a rule for it, so a search is specified the way it is
written.

A pattern is followed name by name from a directory. `Disk.Leads` says where one
name leads and `Disk.Finds` what the whole pattern finds; `Disk.Breaks` is what
stops the search. On a disk without links, selecting by a pattern finds exactly
what the pattern finds, unless it is stopped (`Disk.select_meets`).

A pattern of one plain name finds the files below a directory whose last name
fits it, at any depth (`Disk.finds_plain_iff`), as long as the directories on
the way may be listed.
-/

namespace GrammarLint

namespace Search

variable {α β : Type}

/-- The search finds all that it is to find, unless it is stopped. Then what it
has found so far is right, and so is the reason. -/
structure Meets (s : Search α) (Found : α → Prop) (Stops : PathFault → Prop) :
    Prop where
  sound : ∀ a ∈ s.found, Found a
  complete : s.fault = none → ∀ a, Found a → a ∈ s.found
  stopped : ∀ fault, s.fault = some fault → Stops fault
  free : s.fault = none → ∀ fault, ¬ Stops fault

theorem Meets.congr {s : Search α} {F G : α → Prop} {S T : PathFault → Prop}
    (h : s.Meets F S) (hfound : ∀ a, F a ↔ G a) (hstops : ∀ e, S e ↔ T e) :
    s.Meets G T := by
  obtain rfl : F = G := funext fun a => propext (hfound a)
  obtain rfl : S = T := funext fun e => propext (hstops e)
  exact h

theorem meets_list (found : List α) :
    Meets ⟨found, none⟩ (· ∈ found) fun _ => False where
  sound _ ha := ha
  complete _ _ ha := ha
  stopped _ h := by cases h
  free _ _ h := h

theorem meets_one (a : α) : (one a).Meets (· = a) fun _ => False :=
  (meets_list [a]).congr (fun _ => List.mem_singleton) fun _ => Iff.rfl

theorem meets_nothing :
    (nothing : Search α).Meets (fun _ => False) fun _ => False :=
  (meets_list []).congr (fun a => by simp) fun _ => Iff.rfl

theorem meets_fault (fault : PathFault) :
    Meets (⟨[], some fault⟩ : Search α) (fun _ => False) (· = fault) where
  sound _ ha := by cases ha
  complete h := by cases h
  stopped _ h := (Option.some.inj h).symm
  free h := by cases h

theorem Meets.andThen {s t : Search α} {F G : α → Prop} {S T : PathFault → Prop}
    (hs : s.Meets F S) (ht : t.Meets G T) :
    (s.andThen t).Meets (fun a => F a ∨ G a) fun e => S e ∨ T e := by
  rw [Search.andThen]
  cases hfault : s.fault with
  | some fault =>
      refine ⟨fun a ha => .inl (hs.sound a ha), fun h => ?_,
        fun e he => .inl (hs.stopped e he), fun h => ?_⟩
      · cases hfault.symm.trans h
      · cases hfault.symm.trans h
  | none =>
      refine ⟨fun a ha => ?_, fun h a ha => ?_,
        fun e he => .inr (ht.stopped e he), fun h e he => ?_⟩
      · exact (List.mem_append.mp ha).imp (hs.sound a) (ht.sound a)
      · exact List.mem_append.mpr
          (ha.imp (hs.complete hfault a) (ht.complete h a))
      · exact he.elim (hs.free hfault e) (ht.free h e)

theorem meets_foldr {f : α → Search β} {G : α → β → Prop}
    {T : α → PathFault → Prop} (hf : ∀ a, (f a).Meets (G a) (T a))
    (found : List α) (fault : Option PathFault) :
    (flatMap ⟨found, fault⟩ f).Meets (fun b => ∃ a ∈ found, G a b)
      fun e => fault = some e ∨ ∃ a ∈ found, T a e := by
  induction found with
  | nil =>
      refine ⟨fun b hb => ?_, fun _ b hb => ?_, fun e he => .inl he,
        fun h e he => ?_⟩
      · cases hb
      · obtain ⟨a, ha, -⟩ := hb
        cases ha
      · rcases he with he | ⟨a, ha, -⟩
        · cases h.symm.trans he
        · cases ha
  | cons a found ih =>
      refine Meets.congr ((hf a).andThen ih) (fun b => ?_) fun e => ?_
      · simp
      · rw [or_left_comm, List.exists_mem_cons_iff]

/-- A search from everything that another search finds. -/
theorem Meets.flatMap {s : Search α} {f : α → Search β} {F : α → Prop}
    {S : PathFault → Prop} {G : α → β → Prop} {T : α → PathFault → Prop}
    (hs : s.Meets F S) (hf : ∀ a, (f a).Meets (G a) (T a)) :
    (s.flatMap f).Meets (fun b => ∃ a, F a ∧ G a b)
      fun e => S e ∨ ∃ a, F a ∧ T a e := by
  have h := meets_foldr hf s.found s.fault
  have hwhole : (s.flatMap f).fault = none → s.fault = none := by
    intro hnone
    cases hfault : s.fault with
    | none => rfl
    | some fault => exact absurd (.inl hfault) (h.free hnone fault)
  refine ⟨fun b hb => ?_, fun hnone b hb => ?_, fun e he => ?_,
    fun hnone e he => ?_⟩
  · obtain ⟨a, ha, hb⟩ := h.sound b hb
    exact ⟨a, hs.sound a ha, hb⟩
  · obtain ⟨a, ha, hb⟩ := hb
    exact h.complete hnone b ⟨a, hs.complete (hwhole hnone) a ha, hb⟩
  · rcases h.stopped e he with he | ⟨a, ha, he⟩
    · exact .inl (hs.stopped e he)
    · exact .inr ⟨a, hs.sound a ha, he⟩
  · rcases he with he | ⟨a, ha, he⟩
    · exact hs.free (hwhole hnone) e he
    · exact h.free hnone e (.inr ⟨a, hs.complete (hwhole hnone) a ha, he⟩)

/-- A search that goes on with an answer. Being denied one is no reason to
stop. -/
theorem meets_asked {answer : Except PathFault β} {next : β → Search α}
    {F : β → α → Prop} {S : β → PathFault → Prop}
    (h : ∀ b, answer = .ok b → (next b).Meets (F b) (S b)) :
    (asked answer next).Meets (fun a => ∃ b, answer = .ok b ∧ F b a)
      fun e => answer = .error e ∧ e ≠ .denied ∨ ∃ b, answer = .ok b ∧
      S b e := by
  cases answer with
  | ok b => exact (h b rfl).congr (fun a => by simp) fun e => by simp
  | error fault =>
      have hstopped : (stopped fault : Search α).Meets (fun _ => False)
          fun e => e = fault ∧ e ≠ .denied := by
        cases fault with
        | denied =>
            exact meets_nothing.congr (fun _ => Iff.rfl) fun e => by simp
        | nul | tooLong | noDirectory | loop | tooDeep =>
            refine (meets_fault _).congr (fun _ => Iff.rfl) fun e => ?_
            exact ⟨fun he => ⟨he, by rw [he]; decide⟩, And.left⟩
      exact hstopped.congr (fun a => by simp) fun e => by simp [eq_comm]

theorem Meets.ite {s : Search α} {F : α → Prop} {S : PathFault → Prop}
    (h : s.Meets F S) (b : Bool) :
    (if b then s else nothing).Meets (fun a => b = true ∧ F a)
      fun e => b = true ∧ S e := by
  cases b with
  | true => exact h.congr (fun a => by simp) fun e => by simp
  | false => exact meets_nothing.congr (fun a => by simp) fun e => by simp

theorem Meets.outcome_eq_ok {s : Search α} {F : α → Prop} {S : PathFault → Prop}
    (h : s.Meets F S) {found : List α} (hfound : s.outcome = .ok found) :
    (∀ a, a ∈ found ↔ F a) ∧ ∀ fault, ¬ S fault := by
  rw [outcome] at hfound
  split at hfound
  · next hfault =>
      obtain rfl := Except.ok.inj hfound
      exact ⟨fun a => ⟨h.sound a, h.complete hfault a⟩, h.free hfault⟩
  · cases hfound

theorem Meets.outcome_eq_error {s : Search α} {F : α → Prop}
    {S : PathFault → Prop} (h : s.Meets F S) {fault : PathFault}
    (hfault : s.outcome = .error fault) : S fault := by
  rw [outcome] at hfault
  split at hfault
  · cases hfault
  · next hsome => exact Except.error.inj hfault ▸ h.stopped _ hsome

end Search

namespace Disk

/-- A directory that lies so many levels below another one, in directories that
may be listed. -/
inductive BelowBy (disk : Disk) : Nat → Path → Path → Prop
  | here {path : Path} : BelowBy disk 0 path path
  | step {n : Nat} {path directory : Path} {entries : List (Text × DiskEntry)}
      {name : Text} (hlist : disk.list path = .ok entries)
      (hname : (name, .directory) ∈ entries)
      (h : BelowBy disk n (path.child name) directory) :
      BelowBy disk (n + 1) path directory

/-- A directory that lies at or below another one. -/
def Below (disk : Disk) (path directory : Path) : Prop :=
  ∃ n, disk.BelowBy n path directory

theorem BelowBy.add {disk : Disk} {n m : Nat} {a b c : Path}
    (hab : disk.BelowBy n a b) (hbc : disk.BelowBy m b c) :
    disk.BelowBy (n + m) a c := by
  induction hab with
  | here => rwa [Nat.zero_add]
  | step hlist hname _ ih =>
      rw [Nat.add_right_comm]
      exact .step hlist hname (ih hbc)

theorem Below.trans {disk : Disk} {a b c : Path} (hab : disk.Below a b)
    (hbc : disk.Below b c) : disk.Below a c := by
  obtain ⟨n, hab⟩ := hab
  obtain ⟨m, hbc⟩ := hbc
  exact ⟨n + m, hab.add hbc⟩

/-- Whoever comes down so many levels has come by every level above. -/
theorem BelowBy.exists_of_le {disk : Disk} {n m : Nat} {a b : Path}
    (h : disk.BelowBy n a b) (hle : m ≤ n) :
    ∃ between, disk.BelowBy m a between := by
  induction h generalizing m with
  | @here path =>
      obtain rfl := Nat.le_zero.mp hle
      exact ⟨path, .here⟩
  | @step n path directory entries name hlist hname _ ih =>
      cases m with
      | zero => exact ⟨path, .here⟩
      | succ m =>
          obtain ⟨between, hbetween⟩ := ih (Nat.le_of_succ_le_succ hle)
          exact ⟨between, .step hlist hname hbetween⟩

theorem fault_of_list {disk : Disk} {path : Path} {fault : PathFault}
    (h : disk.list path = .error fault) : fault = .tooLong ∨
    fault = .denied := by
  rw [list] at h
  split at h
  · exact .inl (Except.error.inj h).symm
  · exact .inr (Except.error.inj h).symm
  · split at h
    · exact .inr (Except.error.inj h).symm
    · cases h
  · cases h

/-- The fault of something that cannot be asked, unless it is one of being
denied. -/
theorem error_and_ne_denied {α : Type} {answer : Except PathFault α}
    (h : ∀ fault, answer = .error fault → fault = .tooLong ∨ fault = .denied)
    {e : PathFault} :
    answer = .error e ∧ e ≠ .denied ↔
      e = .tooLong ∧ answer = .error .tooLong := by
  constructor
  · intro h
    obtain ⟨herror, hdenied⟩ := h
    obtain rfl := (h e herror).resolve_right hdenied
    exact ⟨rfl, herror⟩
  · intro h
    obtain ⟨he, herror⟩ := h
    exact ⟨he ▸ herror, by rw [he]; decide⟩

theorem belowBy_lt_succ_iff {disk : Disk} {room : Nat} {path p : Path} :
    (∃ n < room + 1, disk.BelowBy n path p) ↔
      p = path ∨ ∃ entries, disk.list path = .ok entries ∧ ∃ entry ∈ entries,
        entry.2 = .directory ∧
        ∃ n < room, disk.BelowBy n (path.child entry.1) p := by
  constructor
  · intro h
    obtain ⟨n, hn, h⟩ := h
    cases h with
    | here => exact .inl rfl
    | step hlist hname h =>
        exact .inr ⟨_, hlist, _, hname, rfl, _, Nat.lt_of_succ_lt_succ hn, h⟩
  · intro h
    rcases h with rfl | ⟨entries, hlist, ⟨name, kind⟩, hname, hkind, n, hn, h⟩
    · exact ⟨0, Nat.succ_pos room, .here⟩
    · obtain rfl : kind = .directory := hkind
      exact ⟨n + 1, Nat.succ_lt_succ hn, .step hlist hname h⟩

theorem belowBy_succ_iff {disk : Disk} {n : Nat} {path p : Path} :
    disk.BelowBy (n + 1) path p ↔ ∃ entries, disk.list path = .ok entries ∧
      ∃ entry ∈ entries, entry.2 = .directory ∧
        disk.BelowBy n (path.child entry.1) p := by
  constructor
  · intro h
    cases h with
    | step hlist hname h => exact ⟨_, hlist, _, hname, rfl, h⟩
  · intro h
    obtain ⟨entries, hlist, ⟨name, kind⟩, hname, hkind, h⟩ := h
    obtain rfl : kind = .directory := hkind
    exact .step hlist hname h

/-- What stops a descent of so many levels. -/
def DescentBreaks (disk : Disk) (room : Nat) (path : Path) (fault : PathFault) :
    Prop :=
  (fault = .tooLong ∧ ∃ directory, (∃ n < room, disk.BelowBy n path directory) ∧
    disk.list directory = .error .tooLong) ∨
  (fault = .tooDeep ∧ ∃ directory, disk.BelowBy room path directory)

theorem descentBreaks_succ_iff {disk : Disk} {room : Nat} {path : Path}
    {fault : PathFault} :
    disk.DescentBreaks (room + 1) path fault ↔
      (fault = .tooLong ∧ disk.list path = .error .tooLong) ∨
      ∃ entries, disk.list path = .ok entries ∧ ∃ entry ∈ entries,
        entry.2 = .directory ∧
        disk.DescentBreaks room (path.child entry.1) fault := by
  constructor
  · intro h
    rcases h with ⟨hfault, directory, hbelow, hlist⟩ | ⟨hfault,
      directory, hbelow⟩
    · rcases belowBy_lt_succ_iff.mp hbelow with rfl |
        ⟨entries, hentries, entry, hentry, hkind, hbelow⟩
      · exact .inl ⟨hfault, hlist⟩
      · exact .inr ⟨entries, hentries, entry, hentry, hkind,
          .inl ⟨hfault, directory, hbelow, hlist⟩⟩
    · obtain ⟨entries, hentries, entry, hentry, hkind, hbelow⟩ :=
        belowBy_succ_iff.mp hbelow
      exact .inr ⟨entries, hentries, entry, hentry, hkind,
        .inr ⟨hfault, directory, hbelow⟩⟩
  · intro h
    rcases h with ⟨hfault, hlist⟩ | ⟨entries, hentries, entry, hentry, hkind, h⟩
    · exact .inl ⟨hfault, path, ⟨0, Nat.succ_pos room, .here⟩, hlist⟩
    · rcases h with ⟨hfault, directory, hbelow, hlist⟩ | ⟨hfault,
        directory, hbelow⟩
      · exact .inl ⟨hfault, directory, belowBy_lt_succ_iff.mpr
          (.inr ⟨entries, hentries, entry, hentry, hkind, hbelow⟩), hlist⟩
      · exact .inr ⟨hfault, directory, belowBy_succ_iff.mpr
          ⟨entries, hentries, entry, hentry, hkind, hbelow⟩⟩

theorem descend_meets (disk : Disk) (room : Nat) (path : Path) :
    (disk.descend room path).Meets
      (fun directory => ∃ n < room, disk.BelowBy n path directory)
      (disk.DescentBreaks room path) := by
  induction room generalizing path with
  | zero =>
      refine (Search.meets_fault .tooDeep).congr (fun directory => by simp)
        fun fault => ⟨fun h => .inr ⟨h, path, .here⟩, fun h => ?_⟩
      rcases h with ⟨-, directory, ⟨n, hn, -⟩, -⟩ | ⟨h, -⟩
      · cases hn
      · exact h
  | succ room ih =>
      have hentry : ∀ (name : Text) (kind : DiskEntry) (below : Search Path),
          (kind = .directory →
            below = disk.descend room (path.child name)) →
          (kind ≠ .directory → below = .nothing) →
          below.Meets
            (fun directory => kind = .directory ∧
              ∃ n < room, disk.BelowBy n (path.child name) directory)
            fun fault => kind = .directory ∧
              disk.DescentBreaks room (path.child name) fault := by
        intro name kind below hdirectory hother
        by_cases hkind : kind = .directory
        · rw [hdirectory hkind]
          exact (ih (path.child name)).congr (by simp [hkind]) (by simp [hkind])
        · rw [hother hkind]
          exact Search.meets_nothing.congr (by simp [hkind]) (by simp [hkind])
      refine ((Search.meets_one path).andThen (Search.meets_asked
        fun entries _ => (Search.meets_list entries).flatMap
          fun entry : Text × DiskEntry => hentry entry.1 entry.2 _
            (fun h => by rw [h]) fun h => by
              split
              · exact absurd ‹_› h
              · rfl)).congr
          (fun directory => belowBy_lt_succ_iff.symm) fun fault => ?_
      rw [descentBreaks_succ_iff, error_and_ne_denied fun _ => fault_of_list]
      simp only [false_or]

/-- Unless the search is stopped, every level is reached. -/
theorem descend_meets_below (disk : Disk) (room : Nat) (path : Path) :
    (disk.descend room path).Meets (disk.Below path) fun fault =>
      (fault = .tooLong ∧ ∃ directory, disk.Below path directory ∧
        disk.list directory = .error .tooLong) ∨
      (fault = .tooDeep ∧ ∃ directory, disk.BelowBy room path directory) := by
  have h := disk.descend_meets room path
  have hlevels : (disk.descend room path).fault = none →
      ∀ directory, disk.Below path directory →
        ∃ n < room, disk.BelowBy n path directory := by
    intro hnone directory hbelow
    obtain ⟨n, hbelow⟩ := hbelow
    refine ⟨n, Nat.lt_of_not_le fun hle => ?_, hbelow⟩
    exact h.free hnone .tooDeep (.inr ⟨rfl, hbelow.exists_of_le hle⟩)
  refine ⟨fun directory hfound => ?_, fun hnone directory hbelow =>
    h.complete hnone directory (hlevels hnone directory hbelow),
    fun fault hfault => ?_,
    fun hnone fault hstops => ?_⟩
  · obtain ⟨n, -, hbelow⟩ := h.sound directory hfound
    exact ⟨n, hbelow⟩
  · refine (h.stopped fault hfault).imp_left fun hlong => ?_
    obtain ⟨hlong, directory, ⟨n, -, hbelow⟩, hlist⟩ := hlong
    exact ⟨hlong, directory, ⟨n, hbelow⟩, hlist⟩
  · refine h.free hnone fault (hstops.imp_left fun hlong => ?_)
    obtain ⟨hlong, directory, hbelow, hlist⟩ := hlong
    exact ⟨hlong, directory, hlevels hnone directory hbelow, hlist⟩

/-! ## Patterns

A name of a pattern leads from a path to others: any directories below it, the
names in it that a glob pattern covers, or one more name. What is not the last
name must lead to a directory. The search is stopped where a directory cannot be
listed or a name cannot be asked about because the path is too long, and where
directories are nested too deeply. -/

/-- Where one name of a pattern leads from a path. -/
inductive Leads (disk : Disk) :
    PatternName → List PatternName → Path → Path → Prop
  | descend {rest : List PatternName} {path directory : Path}
      (h : disk.Below path directory) : Leads disk .descend rest path directory
  | glob {pattern name : Text} {rest : List PatternName} {path : Path}
      {entries : List (Text × DiskEntry)} {kind : DiskEntry}
      (hlist : disk.list path = .ok entries) (hname : (name, kind) ∈ entries)
      (hcovers : Glob.covers pattern name = true)
      (hfits : rest ≠ [] → kind = .directory) :
      Leads disk (.glob pattern) rest path (path.child name)
  | exact {name : Text} {rest : List PatternName} {path : Path}
      (hlast : rest = [] → disk.exists? (path.child name) = .ok true)
      (hfits : rest ≠ [] → disk.isDirectory (path.child name) = .ok true) :
      Leads disk (.exact name) rest path (path.child name)

/-- What a pattern finds from a path, name by name. -/
inductive Finds (disk : Disk) : List PatternName → Path → Path → Prop
  | nil {path : Path} : Finds disk [] path path
  | here {rest : List PatternName} {path : Path} :
      Finds disk (.here :: rest) path path
  | step {first : PatternName} {rest : List PatternName}
      {path next found : Path}
      (hleads : disk.Leads first rest path next)
      (h : Finds disk rest next found) :
      Finds disk (first :: rest) path found

/-- What stops the search at one name of a pattern. -/
inductive StepBreaks (disk : Disk) : PatternName → Path → PathFault → Prop
  | descend {path directory : Path} (hbelow : disk.Below path directory)
      (h : disk.list directory = .error .tooLong) :
      StepBreaks disk .descend path .tooLong
  | depth {path directory : Path}
      (h : disk.BelowBy disk.room.directories path directory) :
      StepBreaks disk .descend path .tooDeep
  | glob {pattern : Text} {path : Path} (h : disk.list path = .error .tooLong) :
      StepBreaks disk (.glob pattern) path .tooLong
  | exact {name : Text} {path : Path}
      (h : disk.look (path.child name) = .error .tooLong) :
      StepBreaks disk (.exact name) path .tooLong

/-- What stops the search on the way of a pattern. -/
inductive Breaks (disk : Disk) : List PatternName → Path → PathFault → Prop
  | first {first : PatternName} {rest : List PatternName} {path : Path}
      {fault : PathFault} (h : disk.StepBreaks first path fault) :
      Breaks disk (first :: rest) path fault
  | step {first : PatternName} {rest : List PatternName} {path next : Path}
      {fault : PathFault} (hleads : disk.Leads first rest path next)
      (h : Breaks disk rest next fault) : Breaks disk (first :: rest) path fault

theorem finds_cons_iff {disk : Disk} {first : PatternName}
    (hfirst : first ≠ .here) {rest : List PatternName} {path found : Path} :
    disk.Finds (first :: rest) path found ↔
      ∃ next, disk.Leads first rest path next ∧ disk.Finds rest next found := by
  constructor
  · intro h
    cases h with
    | here => exact absurd rfl hfirst
    | step hleads h => exact ⟨_, hleads, h⟩
  · intro h
    obtain ⟨next, hleads, h⟩ := h
    exact .step hleads h

theorem breaks_cons_iff {disk : Disk} {first : PatternName}
    {rest : List PatternName} {path : Path} {fault : PathFault} :
    disk.Breaks (first :: rest) path fault ↔ disk.StepBreaks first path fault ∨
      ∃ next, disk.Leads first rest path next ∧
        disk.Breaks rest next fault := by
  constructor
  · intro h
    cases h with
    | first h => exact .inl h
    | step hleads h => exact .inr ⟨_, hleads, h⟩
  · intro h
    rcases h with h | ⟨next, hleads, h⟩
    · exact .first h
    · exact .step hleads h

theorem Linkless.list {disk : Disk} (h : disk.Linkless) {path : Path}
    {entries : List (Text × DiskEntry)} (hlist : disk.list path = .ok entries) :
    ∀ entry ∈ entries, ∀ link, entry.2 ≠ .link link := by
  rw [Disk.list] at hlist
  split at hlist
  · cases hlist
  · cases hlist
  · split at hlist
    · cases hlist
    · obtain rfl := Except.ok.inj hlist
      intro entry hentry link hlink
      obtain ⟨whole, hwhole, hentry⟩ := List.mem_filterMap.mp hentry
      split at hentry
      · obtain rfl := Option.some.inj hentry
        exact h whole hwhole link hlink
      · cases hentry
  · obtain rfl := Except.ok.inj hlist
    exact fun entry hentry => by cases hentry

theorem directoriesAmong_meets (disk : Disk) (path : Path)
    {entries : List (Text × DiskEntry)}
    (h : ∀ entry ∈ entries, ∀ link, entry.2 ≠ .link link) :
    (disk.directoriesAmong path entries).Meets
      (fun name => (name, .directory) ∈ entries) fun _ => False := by
  induction entries with
  | nil => exact Search.meets_nothing.congr (by simp) (by simp)
  | cons entry entries ih =>
      obtain ⟨name, kind⟩ := entry
      have hrest :=
        ih fun other hother => h other (List.mem_cons_of_mem _ hother)
      cases kind with
      | directory =>
          exact ((Search.meets_one name).andThen hrest).congr
            (by simp) (by simp)
      | file bytes => exact hrest.congr (by simp) (by simp)
      | link link => exact absurd rfl (h _ List.mem_cons_self link)

/-- The names that a glob pattern is held against. -/
theorem namesAmong_meets (disk : Disk) (path : Path) (rest : List PatternName)
    {entries : List (Text × DiskEntry)}
    (h : ∀ entry ∈ entries, ∀ link, entry.2 ≠ .link link) :
    (if rest.isEmpty then ⟨entries.map Prod.fst, none⟩
      else disk.directoriesAmong path entries).Meets
        (fun name => ∃ kind, (name, kind) ∈ entries ∧
          (rest ≠ [] → kind = .directory)) fun _ => False := by
  cases rest with
  | nil =>
      exact (Search.meets_list _).congr (fun name => by simp) fun _ => Iff.rfl
  | cons first rest =>
      exact (disk.directoriesAmong_meets path h).congr (fun name => by simp)
        fun _ => Iff.rfl

theorem leads_glob_iff {disk : Disk} {pattern : Text} {rest : List PatternName}
    {path next : Path} :
    disk.Leads (.glob pattern) rest path next ↔ ∃ entries,
      disk.list path = .ok entries ∧ ∃ name, (∃ kind, (name, kind) ∈ entries ∧
        (rest ≠ [] → kind = .directory)) ∧ Glob.covers pattern name = true ∧
          next = path.child name := by
  constructor
  · intro h
    cases h with
    | glob hlist hname hcovers hfits =>
        exact ⟨_, hlist, _, ⟨_, hname, hfits⟩, hcovers, rfl⟩
  · intro h
    obtain ⟨entries, hlist, name, ⟨kind, hname, hfits⟩, hcovers, hnext⟩ := h
    exact hnext ▸ .glob hlist hname hcovers hfits

theorem leads_exact_iff {disk : Disk} {name : Text} {rest : List PatternName}
    {path next : Path} :
    disk.Leads (.exact name) rest path next ↔
      (if rest.isEmpty then disk.exists? (path.child name)
        else disk.isDirectory (path.child name)) = .ok true ∧
      next = path.child name := by
  constructor
  · intro h
    cases h with
    | exact hlast hfits =>
        cases rest with
        | nil => exact ⟨hlast rfl, rfl⟩
        | cons => exact ⟨hfits (by simp), rfl⟩
  · intro h
    obtain ⟨hfits, hnext⟩ := h
    rw [hnext]
    cases rest with
    | nil => exact .exact (fun _ => hfits) fun h => absurd rfl h
    | cons => exact .exact (fun h => by cases h) fun _ => hfits

theorem stepBreaks_descend_iff {disk : Disk} {path : Path} {fault : PathFault} :
    disk.StepBreaks .descend path fault ↔
      (fault = .tooLong ∧ ∃ directory, disk.Below path directory ∧
        disk.list directory = .error .tooLong) ∨
      (fault = .tooDeep ∧
        ∃ directory, disk.BelowBy disk.room.directories path directory) := by
  constructor
  · intro h
    cases h with
    | descend hbelow h => exact .inl ⟨rfl, _, hbelow, h⟩
    | depth h => exact .inr ⟨rfl, _, h⟩
  · intro h
    rcases h with ⟨rfl, directory, hbelow, h⟩ | ⟨rfl, directory, h⟩
    · exact .descend hbelow h
    · exact .depth h

theorem stepBreaks_glob_iff {disk : Disk} {pattern : Text} {path : Path}
    {fault : PathFault} :
    disk.StepBreaks (.glob pattern) path fault ↔
      fault = .tooLong ∧ disk.list path = .error .tooLong := by
  constructor
  · intro h
    cases h with
    | glob h => exact ⟨rfl, h⟩
  · intro h
    obtain ⟨hfault, h⟩ := h
    exact hfault ▸ .glob h

theorem stepBreaks_exact_iff {disk : Disk} {name : Text} {path : Path}
    {fault : PathFault} :
    disk.StepBreaks (.exact name) path fault ↔
      fault = .tooLong ∧ disk.look (path.child name) = .error .tooLong := by
  constructor
  · intro h
    cases h with
    | exact h => exact ⟨rfl, h⟩
  · intro h
    obtain ⟨hfault, h⟩ := h
    exact hfault ▸ .exact h

/-- A selection finds what the pattern finds. -/
theorem select_meets {disk : Disk} (hdisk : disk.Linkless)
    (names : List PatternName) (path : Path) :
    (disk.select names path).Meets (disk.Finds names path)
      (disk.Breaks names path) := by
  have hone : ∀ {names : List PatternName} {path : Path},
      (∀ found, disk.Finds names path found ↔ found = path) →
      (∀ fault, ¬ disk.Breaks names path fault) →
      (Search.one path).Meets (disk.Finds names path)
      (disk.Breaks names path) :=
    fun hfinds hbreaks => (Search.meets_one _).congr
      (fun found => (hfinds found).symm)
      fun fault => ⟨False.elim, hbreaks fault⟩
  induction names generalizing path with
  | nil =>
      refine hone (fun found => ⟨fun h => ?_, fun h => h ▸ .nil⟩)
        fun fault h => ?_
      · cases h
        rfl
      · cases h
  | cons first rest ih =>
      cases first with
      | here =>
          refine hone (fun found => ⟨fun h => ?_, fun h => h ▸ .here⟩)
            fun fault h => ?_
          · cases h with
            | here => rfl
            | step hleads => cases hleads
          · cases h with
            | first h => cases h
            | step hleads => cases hleads
      | descend =>
          refine ((disk.descend_meets_below _ path).flatMap ih).congr
            (fun found => ?_) fun fault => ?_
          · rw [finds_cons_iff (by decide)]
            refine exists_congr fun next => and_congr_left fun _ =>
              ⟨.descend, fun h => ?_⟩
            cases h
            assumption
          · rw [breaks_cons_iff, stepBreaks_descend_iff]
            refine or_congr_right (exists_congr fun next =>
              and_congr_left fun _ => ⟨.descend, fun h => ?_⟩)
            cases h
            assumption
      | glob pattern =>
          refine (Search.meets_asked fun entries hlist =>
            (disk.namesAmong_meets path rest (hdisk.list hlist)).flatMap
            fun name =>
              (ih (path.child name)).ite (Glob.covers pattern name)).congr
                (fun found => ?_) fun fault => ?_
          · rw [finds_cons_iff (fun h => by cases h)]
            simp only [leads_glob_iff]
            constructor
            · intro h
              obtain ⟨entries, hlist, name, hname, hcovers, hfinds⟩ := h
              exact ⟨_, ⟨entries, hlist, name, hname, hcovers, rfl⟩, hfinds⟩
            · intro h
              obtain ⟨next, ⟨entries, hlist, name, hname, hcovers, hnext⟩,
                hfinds⟩ := h
              exact ⟨entries, hlist, name, hname, hcovers, hnext ▸ hfinds⟩
          · rw [breaks_cons_iff, stepBreaks_glob_iff,
              error_and_ne_denied fun _ => fault_of_list]
            simp only [leads_glob_iff, false_or]
            refine or_congr_right ⟨?_, ?_⟩
            · intro h
              obtain ⟨entries, hlist, name, hname, hcovers, hbreaks⟩ := h
              exact ⟨_, ⟨entries, hlist, name, hname, hcovers, rfl⟩, hbreaks⟩
            · intro h
              obtain ⟨next, ⟨entries, hlist, name, hname, hcovers, hnext⟩,
                hbreaks⟩ := h
              exact ⟨entries, hlist, name, hname, hcovers, hnext ▸ hbreaks⟩
      | exact name =>
          have herror : ∀ fault,
            (if rest.isEmpty then disk.exists? (path.child name)
              else disk.isDirectory (path.child name)) = .error fault ↔
                disk.look (path.child name) = .error fault := by
            intro fault
            split <;> exact map_eq_error_iff
          refine (Search.meets_asked fun fits _ =>
            (ih (path.child name)).ite fits).congr (fun found => ?_)
            fun fault => ?_
          · rw [finds_cons_iff (fun h => by cases h)]
            simp only [leads_exact_iff]
            constructor
            · intro h
              obtain ⟨fits, hanswer, hfits, hfinds⟩ := h
              exact ⟨_, ⟨hfits ▸ hanswer, rfl⟩, hfinds⟩
            · intro h
              obtain ⟨next, ⟨hanswer, hnext⟩, hfinds⟩ := h
              exact ⟨true, hanswer, rfl, hnext ▸ hfinds⟩
          · rw [breaks_cons_iff, stepBreaks_exact_iff, herror,
              error_and_ne_denied fun _ => fault_of_look]
            simp only [leads_exact_iff]
            refine or_congr_right ⟨?_, ?_⟩
            · intro h
              obtain ⟨fits, hanswer, hfits, hbreaks⟩ := h
              exact ⟨_, ⟨hfits ▸ hanswer, rfl⟩, hbreaks⟩
            · intro h
              obtain ⟨next, ⟨hanswer, hnext⟩, hbreaks⟩ := h
              exact ⟨true, hanswer, rfl, hnext ▸ hbreaks⟩

theorem fileAt_meets (disk : Disk) (path : Path) :
    (disk.fileAt path).Meets (fun p => disk.isFile path = .ok true ∧ p = path)
      fun fault => disk.look path = .error fault := by
  have herror : ∀ fault, disk.isFile path = .error fault ↔
      disk.look path = .error fault := fun fault => map_eq_error_iff
  simp only [← herror]
  rw [fileAt]
  cases disk.isFile path with
  | error fault =>
      exact (Search.meets_fault fault).congr (by simp) (by simp [eq_comm])
  | ok isFile =>
      cases isFile with
      | true => exact (Search.meets_one path).congr (by simp) (by simp)
      | false => exact Search.meets_nothing.congr (by simp) (by simp)

theorem filesBelow_meets {disk : Disk} (hdisk : disk.Linkless)
    (names : List PatternName) (path : Path) :
    (disk.filesBelow names path).Meets
      (fun p => disk.Finds (.descend :: names) path p ∧
        disk.isFile p = .ok true)
      fun fault => disk.Breaks (.descend :: names) path fault ∨
        ∃ p, disk.Finds (.descend :: names) path p ∧
          disk.look p = .error fault := by
  refine ((select_meets hdisk _ path).flatMap disk.fileAt_meets).congr
    (fun p => ?_)
    fun fault => Iff.rfl
  constructor
  · intro h
    obtain ⟨found, hfinds, hfile, hp⟩ := h
    exact hp ▸ ⟨hfinds, hfile⟩
  · intro h
    obtain ⟨hfinds, hfile⟩ := h
    exact ⟨p, hfinds, hfile, rfl⟩

theorem BelowBy.anchor {disk : Disk} {n : Nat} {path directory : Path}
    (h : disk.BelowBy n path directory) : directory.anchor = path.anchor := by
  induction h with
  | here => rfl
  | step _ _ _ ih => exact ih

/-- Whatever is found starts where the search did. -/
theorem Finds.anchor {disk : Disk} {names : List PatternName}
    {path found : Path} (h : disk.Finds names path found) :
    found.anchor = path.anchor := by
  induction h with
  | nil => rfl
  | here => rfl
  | step hleads _ ih =>
      rw [ih]
      cases hleads with
      | descend h =>
          obtain ⟨n, h⟩ := h
          exact h.anchor
      | glob => rfl
      | exact => rfl

theorem Finds.of_below {disk : Disk} {above below p : Path}
    {names : List PatternName} (h : disk.Finds (.descend :: names) below p)
    (hbelow : disk.Below above below) :
    disk.Finds (.descend :: names) above p := by
  rw [finds_cons_iff (by decide)] at h ⊢
  obtain ⟨next, hleads, h⟩ := h
  cases hleads with
  | descend hnext => exact ⟨next, .descend (hbelow.trans hnext), h⟩

theorem Breaks.of_below {disk : Disk} {above below : Path} {fault : PathFault}
    {names : List PatternName} (h : disk.Breaks (.descend :: names) below fault)
    (hbelow : disk.Below above below) :
    disk.Breaks (.descend :: names) above fault := by
  cases h with
  | first h =>
      cases h with
      | descend hnext h => exact .first (.descend (hbelow.trans hnext) h)
      | depth h =>
          obtain ⟨n, hbelow⟩ := hbelow
          obtain ⟨directory, hdirectory⟩ :=
            (hbelow.add h).exists_of_le (Nat.le_add_left _ n)
          exact .first (.depth hdirectory)
  | step hleads h =>
      cases hleads with
      | descend hnext => exact .step (.descend (hbelow.trans hnext)) h

theorem HasProperNames.list {disk : Disk} (h : disk.HasProperNames)
    {path : Path} {entries : List (Text × DiskEntry)}
    (hlist : disk.list path = .ok entries) :
    ∀ entry ∈ entries, IsProperName entry.1 := by
  rw [Disk.list] at hlist
  split at hlist
  · cases hlist
  · cases hlist
  · split at hlist
    · cases hlist
    · obtain rfl := Except.ok.inj hlist
      intro entry hentry
      obtain ⟨whole, hwhole, hentry⟩ := List.mem_filterMap.mp hentry
      split at hentry
      · next name hname =>
          obtain rfl := Option.some.inj hentry
          rw [List.isPrefixOf?_eq_some_iff_append_eq] at hname
          exact h.entries whole hwhole name
            (hname ▸ List.mem_append_right _ List.mem_cons_self)
      · cases hentry
  · obtain rfl := Except.ok.inj hlist
    exact fun entry hentry => by cases hentry

theorem HasProperNames.belowBy {disk : Disk} (h : disk.HasProperNames) {n : Nat}
    {path directory : Path} (hbelow : disk.BelowBy n path directory)
    (hpath : path.IsResolved) :
    directory.IsResolved ∧ path.names <+: directory.names := by
  induction hbelow with
  | here => exact ⟨hpath, List.prefix_rfl⟩
  | step hlist hname _ ih =>
      obtain ⟨hdirectory, hinside⟩ := ih (hpath.child (h.list hlist _ hname))
      exact ⟨hdirectory, (List.prefix_append _ _).trans hinside⟩

theorem HasProperNames.below {disk : Disk} (h : disk.HasProperNames)
    {path directory : Path} (hbelow : disk.Below path directory)
    (hpath : path.IsResolved) :
    directory.IsResolved ∧ path.names <+: directory.names := by
  obtain ⟨n, hbelow⟩ := hbelow
  exact h.belowBy hbelow hpath

end Disk

/-- The name of a pattern does not go up. -/
def PatternName.StaysBelow : PatternName → Prop
  | .exact name => name ≠ Path.up
  | _ => True

namespace Disk

theorem isProperName_of_child {path : Path} {name : Text} (hup : name ≠ Path.up)
    (hnul : (path.child name).hasNul = false) : IsProperName name :=
  ⟨hup, Path.hasNul_eq_false_iff.mp hnul name (by simp [Path.child])⟩

/-- A pattern that does not go up finds resolved paths from resolved ones. -/
theorem Finds.isResolved {disk : Disk} (hdisk : disk.HasProperNames)
    {names : List PatternName} {path found : Path}
    (h : disk.Finds names path found) (hnames : ∀ name ∈ names, name.StaysBelow)
    (hpath : path.IsResolved) : found.IsResolved := by
  induction h with
  | nil => exact hpath
  | here => exact hpath
  | @step first rest path next found hleads _ ih =>
      rw [List.forall_mem_cons] at hnames
      refine ih hnames.2 ?_
      cases hleads with
      | descend h => exact (hdisk.below h hpath).1
      | glob hlist hname => exact hpath.child (hdisk.list hlist _ hname)
      | @exact name _ _ hlast hfits =>
          have hnul : (path.child name).hasNul = false := by
            by_cases hrest : rest = []
            · exact hasNul_of_exists (hlast hrest)
            · exact hasNul_of_isDirectory (hfits hrest)
          exact hpath.child (isProperName_of_child hnames.1 hnul)

/-! ## Directories on the way

Below a directory others are found by listing, so how a directory above another
one is listed decides whether the other one is found. -/

/-- The directories from one on to another one may be listed. -/
def OpensTo (disk : Disk) (above below : List Text) : Prop :=
  ∀ names, above <+: names → names <+: below → names ≠ below →
    names ∉ disk.sealed

theorem opensTo_of_sealed_eq_nil {disk : Disk} (h : disk.sealed = [])
    (above below : List Text) : disk.OpensTo above below := by
  intro names _ _ _
  rw [h]
  exact List.not_mem_nil

theorem list_of_isDirectory {disk : Disk} (hdisk : disk.Linkless) {path : Path}
    (hpath : path.IsResolved) (h : disk.isDirectory path = .ok true)
    (hopen : path.names ∉ disk.sealed) :
    ∃ entries, disk.list path = .ok entries ∧ ∀ name kind,
      (path.names ++ [name], kind) ∈ disk.entries → (name, kind) ∈ entries := by
  have hlisted : disk.sealed.contains path.names = false := by simpa using hopen
  cases hlist : disk.list path with
  | error fault =>
      rw [list, walk_of_isDirectory hdisk hpath h] at hlist
      simp only [hlisted] at hlist
      cases hlist
  | ok entries =>
      refine ⟨entries, rfl, fun name kind hentry => ?_⟩
      rw [list, walk_of_isDirectory hdisk hpath h] at hlist
      simp only [hlisted] at hlist
      have hrest : path.names.isPrefixOf? (path.names ++ [name]) =
          some [name] :=
        List.isPrefixOf?_eq_some_iff_append_eq.mpr rfl
      rw [← Except.ok.inj hlist]
      exact List.mem_filterMap.mpr ⟨_, hentry, by simp only [hrest]⟩

/-- A directory is found below another one, if those on the way may be
listed. -/
theorem below_of_opensTo {disk : Disk} (hdisk : disk.Linkless)
    {above between : List Text}
    (hbelow : (Path.absolute (above ++ between)).IsResolved)
    (hisBelow : disk.isDirectory (.absolute (above ++ between)) = .ok true)
    (hopen : disk.OpensTo above (above ++ between)) :
    disk.Below (.absolute above) (.absolute (above ++ between)) := by
  induction between generalizing above with
  | nil =>
      rw [List.append_nil]
      exact ⟨0, .here⟩
  | cons name between ih =>
      have happend : above ++ name :: between = above ++ [name] ++ between :=
        List.append_cons above name between
      have hlook := isDirectory_eq_true_iff.mp hisBelow
      have habove : (Path.absolute above).IsResolved :=
        ⟨rfl, fun other hother =>
          hbelow.names other (List.mem_append_left _ hother)⟩
      have hisAbove := isDirectory_of_look hdisk hbelow (by simp) hlook
      have hsealed : above ∉ disk.sealed :=
        hopen above List.prefix_rfl (List.prefix_append _ _) (by simp)
      obtain ⟨entries, hlist, hentries⟩ :=
        list_of_isDirectory hdisk habove hisAbove hsealed
      rw [happend] at hbelow hisBelow hopen hlook ⊢
      have hnext := ih hbelow hisBelow fun names hinside =>
        hopen names ((List.prefix_append above [name]).trans hinside)
      have hisNext : disk.isDirectory (.absolute (above ++ [name])) =
          .ok true := by
        by_cases hbetween : between = []
        · rwa [hbetween, List.append_nil] at hisBelow
        · exact isDirectory_of_look hdisk hbelow hbetween hlook
      have hresolved : (Path.absolute (above ++ [name])).IsResolved :=
        ⟨rfl, fun other hother =>
          hbelow.names other (List.mem_append_left _ hother)⟩
      obtain ⟨-, -, hentry⟩ := (hresolved.look_eq_some_iff hdisk).mp
        (isDirectory_eq_true_iff.mp hisNext)
      have hname := hentries name .directory (mem_entries (by simp) hentry)
      obtain ⟨n, hnext⟩ := hnext
      exact ⟨n + 1, .step hlist hname hnext⟩

end Disk

/-- The name of a pattern stands for names in a directory. -/
def PatternName.IsPlain : PatternName → Prop
  | .glob _ => True
  | .exact name => name ≠ Path.up
  | _ => False

/-- The name of a pattern stands for this name. -/
def PatternName.Fits : PatternName → Text → Prop
  | .glob pattern, name => Glob.covers pattern name = true
  | .exact other, name => name = other
  | _, _ => False

theorem Path.name_child (path : Path) (name : Text) :
    (path.child name).name = name := by
  simp [Path.name, Path.child]

namespace Disk

theorem leads_plain {disk : Disk} (hdisk : disk.HasProperNames)
    {first : PatternName} (hfirst : first.IsPlain) {path found : Path}
    (h : disk.Leads first [] path found) :
    ∃ name, IsProperName name ∧ first.Fits name ∧ found = path.child name := by
  cases h with
  | descend => exact hfirst.elim
  | glob hlist hname hcovers =>
      exact ⟨_, hdisk.list hlist _ hname, hcovers, rfl⟩
  | exact hlast =>
      exact ⟨_, isProperName_of_child hfirst (hasNul_of_exists (hlast rfl)),
        rfl, rfl⟩

/-- A pattern of one plain name finds the files below a directory whose last
name fits. -/
theorem finds_plain_iff {disk : Disk} (hdisk : disk.HasProperNames)
    (hlinks : disk.Linkless) {first : PatternName} (hfirst : first.IsPlain)
    {base p : Path} (hbase : base.IsResolved)
    (hdirectory : disk.isDirectory base = .ok true)
    (hfile : disk.isFile p = .ok true)
    (hopen : disk.OpensTo base.names p.names) :
    disk.Finds [.descend, first] base p ↔
      p.IsResolved ∧ base.names <+: p.names ∧ first.Fits p.name := by
  have hplain : first ≠ .here := fun h => by
    rw [h] at hfirst
    exact hfirst
  constructor
  · intro h
    obtain ⟨directory, hleads, h⟩ := (finds_cons_iff (by decide)).mp h
    obtain ⟨found, hlast, h⟩ := (finds_cons_iff hplain).mp h
    cases h
    cases hleads with
    | descend hbelow =>
        obtain ⟨hresolved, hinside⟩ := hdisk.below hbelow hbase
        obtain ⟨name, hname, hfits, rfl⟩ := leads_plain hdisk hfirst hlast
        refine ⟨hresolved.child hname, hinside.trans (List.prefix_append _ _),
          ?_⟩
        rwa [Path.name_child]
  · intro h
    obtain ⟨hp, ⟨more, hmore⟩, hfits⟩ := h
    obtain ⟨anchor, names⟩ := base
    obtain ⟨anchor', pnames⟩ := p
    obtain rfl : anchor = .root := hbase.anchor
    obtain rfl : anchor' = .root := hp.anchor
    obtain rfl : names ++ more = pnames := hmore
    obtain ⟨bytes, hlook⟩ := isFile_eq_true_iff.mp hfile
    have hbelow : more ≠ [] := by
      intro hnil
      rw [isDirectory_eq_true_iff] at hdirectory
      rw [hnil, List.append_nil] at hlook
      cases hlook.symm.trans hdirectory
    obtain ⟨between, name, rfl⟩ : ∃ between name, more = between ++ [name] :=
      ⟨_, _, (List.dropLast_append_getLast hbelow).symm⟩
    rw [← List.append_assoc] at hp hlook hfits hopen ⊢
    have hparent : (Path.absolute (names ++ between)).IsResolved :=
      ⟨rfl, fun other hother => hp.names other
        (List.mem_append_left [name] hother)⟩
    have hisParent : disk.isDirectory (.absolute (names ++ between)) =
        .ok true :=
      isDirectory_of_look hlinks hp (by simp) hlook
    have hway : disk.OpensTo names (names ++ between) :=
      fun other habove hinside hne => hopen other habove
        (hinside.trans (List.prefix_append _ _)) fun heq => by
          have hlength := hinside.length_le
          simp only [heq, List.length_append, List.length_singleton] at hlength
          omega
    have hchild : (⟨.root, names ++ between ++ [name]⟩ : Path) =
        (Path.absolute (names ++ between)).child name := rfl
    rw [hchild] at hfits ⊢
    rw [Path.name_child] at hfits
    refine .step (.descend (below_of_opensTo hlinks hparent hisParent hway))
      (.step ?_ .nil)
    cases first with
    | glob pattern =>
        have hsealed : names ++ between ∉ disk.sealed :=
          hopen _ (List.prefix_append _ _) (List.prefix_append _ _) (by simp)
        obtain ⟨entries, hlist, hentries⟩ :=
          list_of_isDirectory hlinks hparent hisParent hsealed
        obtain ⟨-, -, hentry⟩ := (hp.look_eq_some_iff hlinks).mp hlook
        exact .glob hlist (hentries name _ (mem_entries (by simp) hentry)) hfits
          fun h => absurd rfl h
    | exact other =>
        obtain rfl : name = other := hfits
        exact .exact (fun _ => congrArg (Except.map Option.isSome) hlook)
          fun h => absurd rfl h
    | descend => exact hfirst.elim
    | here => exact hfirst.elim

end Disk

end GrammarLint
