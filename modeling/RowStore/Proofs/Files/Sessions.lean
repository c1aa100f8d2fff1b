import RowStore.Proofs.Files.Calls

/-! What holds of every disk of a session. A property that each call keeps holds of the disk at the
end and of all that were to be seen before. Folders are made only on the way to the one that is
asked for. -/
namespace RowStore.Files

namespace Session

/-- A property of the disk as it is and of all disks before it. -/
def Holds (P : Disk → Prop) (session : Session) : Prop :=
  P session.disk ∧ ∀ seen ∈ session.past, P seen

variable {P : Disk → Prop} {session : Session}

theorem holds_start {disk : Disk} (first : P disk) : (start disk).Holds P :=
  ⟨first, fun _ member => absurd member List.not_mem_nil⟩

theorem Holds.call (holds : session.Holds P) {act : Disk → Except CallError Disk}
    (keeps : ∀ after, act session.disk = .ok after → P after) : (session.call act).1.Holds P := by
  unfold Session.call
  split
  · next after done =>
    refine ⟨keeps after done, fun seen member => ?_⟩
    rcases List.mem_cons.mp member with rfl | member
    · exact holds.1
    · exact holds.2 seen member
  · exact holds

theorem call_ok {act : Disk → Except CallError Disk} {after : Session}
    (done : session.call act = (after, .ok ())) : act session.disk = .ok after.disk := by
  unfold Session.call at done
  split at done
  · next disk same =>
    obtain ⟨rfl, -⟩ := Prod.mk.inj done
    exact same
  · simp at done

theorem call_error {act : Disk → Except CallError Disk} {e : CallError}
    (failed : (session.call act).2 = .error e) :
    act session.disk = .error e ∧ (session.call act).1 = session := by
  unfold Session.call at failed ⊢
  split at failed
  · simp at failed
  · next other same =>
    obtain rfl := Except.error.inj failed
    exact ⟨same, rfl⟩

theorem andThen_holds {so : Session × Except CallError Unit}
    {next : Session → Session × Except CallError Unit} (first : so.1.Holds P)
    (then_ : ∀ s, so = (s, .ok ()) → (next s).1.Holds P) : (andThen so next).1.Holds P := by
  unfold andThen
  split
  · next s => exact then_ s rfl
  · exact first

theorem andThen_ok {so : Session × Except CallError Unit}
    {next : Session → Session × Except CallError Unit} {after : Session} :
    andThen so next = (after, .ok ()) ↔ ∃ s, so = (s, .ok ()) ∧ next s = (after, .ok ()) := by
  obtain ⟨s, result⟩ := so
  cases result with
  | ok => simp [andThen]
  | error e => simp [andThen]

theorem andThen_error {so : Session × Except CallError Unit}
    {next : Session → Session × Except CallError Unit} {e : CallError}
    (failed : (andThen so next).2 = .error e) :
    so.2 = .error e ∨ ∃ s, so = (s, .ok ()) ∧ (next s).2 = .error e := by
  obtain ⟨s, result⟩ := so
  cases result with
  | ok => exact .inr ⟨s, rfl, failed⟩
  | error other => exact .inl failed

end Session

/-! A path cut behind its last slash. -/
section cut

theorem parts_of_slashes {cs : List Char} (slashes : ∀ c ∈ cs, c = '/') :
    ∀ part ∈ Text.parts '/' cs, part = [] := by
  induction cs with
  | nil => simp [Text.parts]
  | cons c cs ih =>
    obtain ⟨rfl, later⟩ := List.forall_mem_cons.mp slashes
    simpa [Text.parts] using ih later

theorem partsOf_slashes {path front : String} {slashes : List Char}
    (whole : path.toList = front.toList ++ slashes) (all : ∀ c ∈ slashes, c = '/') :
    ∃ more, Text.partsOf '/' path = Text.partsOf '/' front ++ more ∧ ∀ part ∈ more, part = "" := by
  cases slashes with
  | nil => exact ⟨[], by simp [Text.partsOf, whole], by simp⟩
  | cons c rest =>
    obtain ⟨rfl, later⟩ := List.forall_mem_cons.mp all
    refine ⟨(Text.parts '/' rest).map String.ofList, ?_, ?_⟩
    · rw [Text.partsOf, whole, Text.parts_append, List.map_append, Text.partsOf]
    · intro part member
      obtain ⟨cs, found, rfl⟩ := List.mem_map.mp member
      rw [parts_of_slashes later cs found]

theorem namesIn_blank {parts : List String} (blank : ∀ part ∈ parts, part = "") :
    namesIn parts = [] := by
  rw [namesIn, List.filter_eq_nil_iff]
  intro part member
  simp [blank part member]

theorem steps_slashes {path front : String} {slashes : List Char}
    (whole : path.toList = front.toList ++ slashes) (all : ∀ c ∈ slashes, c = '/') :
    steps path = steps front := by
  obtain ⟨more, same, blank⟩ := partsOf_slashes whole all
  rw [steps, same, namesIn_append, namesIn_blank blank, List.append_nil, steps]

theorem bareParts_slashes {path front : String} {slashes : List Char}
    (whole : path.toList = front.toList ++ slashes) (all : ∀ c ∈ slashes, c = '/') :
    bareParts path = bareParts front := by
  obtain ⟨more, same, blank⟩ := partsOf_slashes whole all
  have dropped : ∀ part ∈ more.reverse, (part == "") = true := by
    intro part member
    simp [blank part (List.mem_reverse.mp member)]
  rw [bareParts, same, List.reverse_append, List.dropWhile_append_of_pos dropped, bareParts]

/-- A path made of a front, slashes and a name without any. -/
structure Cut (path front : String) (slashes : List Char) (name : String) : Prop where
  whole : path.toList = front.toList ++ slashes ++ name.toList
  all : ∀ c ∈ slashes, c = '/'
  flat : '/' ∉ name.toList
  closed : front.toList ++ slashes = [] ∨
    ∃ upper : List Char, front.toList ++ slashes = upper ++ ['/']

theorem Cut.parts {path front name : String} {slashes : List Char}
    (cut : Cut path front slashes name) :
    ∃ upper, Text.partsOf '/' path = upper ++ [name] ∧ namesIn upper = steps front := by
  rcases cut.closed with nothing | ⟨upper, closed⟩
  · obtain ⟨none, -⟩ := List.append_eq_nil_iff.mp nothing
    obtain rfl : front = "" := String.toList_eq_nil_iff.mp none
    refine ⟨[], ?_, rfl⟩
    rw [Text.partsOf, cut.whole, nothing, List.nil_append, Text.parts_of_not_mem cut.flat,
      List.map_singleton, String.ofList_toList, List.nil_append]
  · refine ⟨Text.partsOf '/' (String.ofList upper), ?_, ?_⟩
    · rw [Text.partsOf, cut.whole, closed, List.append_assoc, List.singleton_append,
        Text.parts_append, Text.parts_of_not_mem cut.flat, List.map_append, List.map_singleton,
        String.ofList_toList, Text.partsOf, String.toList_ofList]
    · have behind := @steps_slashes (String.ofList (upper ++ ['/'])) (String.ofList upper) ['/']
        (by simp) (by simp)
      have before := @steps_slashes (String.ofList (upper ++ ['/'])) front slashes
        (by simp [closed]) cut.all
      exact behind.symm.trans before

theorem startsWith_of_front {path front : String} {rest : List Char} (present : front ≠ "")
    (whole : path.toList = front.toList ++ rest) :
    path.startsWith "/" = front.startsWith "/" := by
  rw [Bool.eq_iff_iff, String.startsWith_string_iff, String.startsWith_string_iff, whole]
  cases first : front.toList with
  | nil => exact absurd (String.toList_eq_nil_iff.mp first) present
  | cons c cs => simp

theorem not_startsWith {name : String} (flat : '/' ∉ name.toList) :
    name.startsWith "/" = false := by
  rw [Bool.eq_false_iff, ne_eq, String.startsWith_string_iff]
  exact fun slash => flat (slash.subset (by simp))

theorem cutLast_cut (path : String) :
    ∃ slashes, Cut path (cutLast path).1 slashes (cutLast path).2 := by
  have split := List.takeWhile_append_dropWhile (p := (· ≠ '/')) (l := path.toList.reverse)
  have name : '/' ∉ path.toList.reverse.takeWhile (· ≠ '/') := by
    intro member
    simpa using List.all_eq_true.mp List.all_takeWhile _ member
  have ending := List.head?_dropWhile_not (· ≠ '/') path.toList.reverse
  unfold cutLast
  dsimp only
  generalize path.toList.reverse.takeWhile (· ≠ '/') = last at *
  generalize path.toList.reverse.dropWhile (· ≠ '/') = upper at *
  have whole : path.toList = upper.reverse ++ last.reverse := by
    rw [← List.reverse_append, split, List.reverse_reverse]
  have closed : upper.reverse = [] ∨ ∃ front : List Char, upper.reverse = front ++ ['/'] := by
    cases upper with
    | nil => exact .inl rfl
    | cons c rest =>
      obtain rfl : c = '/' := by simpa using ending
      exact .inr ⟨rest.reverse, by simp⟩
  have final : '/' ∉ last.reverse := by simpa using name
  split
  · exact ⟨[], by simpa using whole, by simp, by simpa using final, by simpa using closed⟩
  · have parted := List.takeWhile_append_dropWhile (p := (· = '/')) (l := upper)
    have back : (upper.dropWhile (· = '/')).reverse ++ (upper.takeWhile (· = '/')).reverse =
        upper.reverse := by
      rw [← List.reverse_append, parted]
    refine ⟨(upper.takeWhile (· = '/')).reverse, ?_, ?_, by simpa using final, ?_⟩
    · simp only [String.toList_ofList]
      rw [back, whole]
    · intro c member
      simpa using List.all_eq_true.mp List.all_takeWhile c (List.mem_reverse.mp member)
    · simp only [String.toList_ofList]
      rw [back]
      exact closed

/-- The front of a path ends in no slash, unless it has nothing else. -/
theorem cutLast_front (path : String) : (∀ c ∈ (cutLast path).1.toList, c = '/') ∨
    ∀ front, (cutLast path).1.toList ≠ front ++ ['/'] := by
  unfold cutLast
  dsimp only
  generalize path.toList.reverse.dropWhile (· ≠ '/') = upper
  split
  · next all => exact .inl (by simpa using all)
  · refine .inr fun front ends => ?_
    have first := List.head?_dropWhile_not (· = '/') upper
    rw [String.toList_ofList, List.reverse_eq_iff] at ends
    rw [ends] at first
    simp at first

theorem aboveOf_named {path above name : String} (cut : aboveOf path = (above, name))
    (present : path ≠ "") (relative : path.startsWith "/" = false) : name ≠ "" := by
  have first {cs rest : List Char} (whole : path.toList = cs ++ rest) (all : ∀ c ∈ cs, c = '/') :
      cs = [] := by
    cases cs with
    | nil => rfl
    | cons c cs =>
      obtain rfl := all c List.mem_cons_self
      rw [Bool.eq_false_iff, ne_eq, String.startsWith_string_iff, whole] at relative
      exact absurd ⟨cs ++ rest, rfl⟩ relative
  rintro rfl
  unfold aboveOf at cut
  dsimp only at cut
  obtain ⟨slashes, outer⟩ := cutLast_cut path
  split at cut
  · next blank =>
    rw [String.isEmpty_iff] at blank
    have whole := outer.whole
    rw [blank, String.toList_empty, List.append_nil] at whole
    have blank : (cutLast (cutLast path).1).2 = "" := congrArg Prod.snd cut
    obtain ⟨more, inner⟩ := cutLast_cut (cutLast path).1
    have front := inner.whole
    rw [blank, String.toList_empty, List.append_nil] at front
    have nothing : (cutLast path).1.toList = [] := by
      rcases cutLast_front path with all | ends
      · exact first whole all
      · rcases inner.closed with none | ⟨upper, closed⟩
        · rw [front, none]
        · exact absurd (front.trans closed) (ends upper)
    rw [nothing, List.nil_append] at whole
    have none := first (show path.toList = slashes ++ [] by simpa using whole) outer.all
    exact present (String.toList_eq_nil_iff.mp (whole.trans none))
  · next some =>
    have blank : (cutLast path).2 = "" := congrArg Prod.snd cut
    simp [blank] at some

/-- The folder above leads to where the name of a path stands. -/
theorem aboveOf_parts {path above name : String} (cut : aboveOf path = (above, name))
    (named : name ≠ "") :
    (∃ front, bareParts path = front ++ [name] ∧ namesIn front = steps above) ∧
      ∃ rest, rest ≠ [] ∧ path.toList = above.toList ++ rest := by
  have direct {path : String} (named : (cutLast path).2 ≠ "") :
      (∃ front, bareParts path = front ++ [(cutLast path).2] ∧
        namesIn front = steps (cutLast path).1) ∧
      ∃ rest, rest ≠ [] ∧ path.toList = (cutLast path).1.toList ++ rest := by
    obtain ⟨slashes, cut⟩ := cutLast_cut path
    obtain ⟨front, parts, same⟩ := cut.parts
    refine ⟨⟨front, ?_, same⟩, slashes ++ (cutLast path).2.toList, ?_, ?_⟩
    · simp [bareParts, parts, named]
    · simp [named]
    · rw [cut.whole, List.append_assoc]
  unfold aboveOf at cut
  dsimp only at cut
  split at cut
  · next blank =>
    rw [String.isEmpty_iff] at blank
    obtain ⟨slashes, ⟨whole, all, -, -⟩⟩ := cutLast_cut path
    rw [blank, String.toList_empty, List.append_nil] at whole
    obtain rfl : (cutLast (cutLast path).1).1 = above := congrArg Prod.fst cut
    obtain rfl : (cutLast (cutLast path).1).2 = name := congrArg Prod.snd cut
    obtain ⟨parts, rest, some, split⟩ := direct named
    rw [bareParts_slashes whole all]
    exact ⟨parts, rest ++ slashes, by simp [some], by rw [whole, split, List.append_assoc]⟩
  · obtain ⟨rfl, rfl⟩ := Prod.mk.inj cut
    exact direct named

theorem steps_aboveOf {path above name : String} (cut : aboveOf path = (above, name))
    (named : name ≠ "") : steps above <+: steps path := by
  obtain ⟨⟨front, parts, same⟩, -⟩ := aboveOf_parts cut named
  rw [← namesIn_bareParts path, parts, namesIn_append, same]
  exact List.prefix_append _ _

theorem length_aboveOf {path above name : String} (cut : aboveOf path = (above, name))
    (named : name ≠ "") : above.length < path.length := by
  obtain ⟨-, rest, present, whole⟩ := aboveOf_parts cut named
  have size := congrArg List.length whole
  have more := List.length_pos_iff.mpr present
  simp only [List.length_append, String.length_toList] at size
  omega

end cut

/-- A path to a place on the way to another, from the same start. -/
structure Leads (path top : String) : Prop where
  start : path.startsWith "/" = top.startsWith "/"
  steps : steps path <+: steps top
  chars : ∀ c ∈ path.toList, c ∈ top.toList

theorem Leads.refl (path : String) : Leads path path :=
  ⟨rfl, List.prefix_rfl, fun _ member => member⟩

theorem Leads.above {path top above name : String} (leads : Leads path top)
    (cut : aboveOf path = (above, name)) (present : above ≠ "") (named : name ≠ "") :
    Leads above top := by
  obtain ⟨-, rest, -, whole⟩ := aboveOf_parts cut named
  refine ⟨?_, (steps_aboveOf cut named).trans leads.steps, fun c member => leads.chars c ?_⟩
  · rw [← leads.start, startsWith_of_front present whole]
  · rw [whole]
    exact List.mem_append_left _ member

section folders

variable {P : Disk → Prop} {top path : String} {session : Session}

theorem makeLast_holds (holds : session.Holds P)
    (keeps : ∀ after, session.disk.makeFolder path = .ok after → P after) :
    (makeLast path session).1.Holds P := by
  have called : (session.call (·.makeFolder path)).1.Holds P := holds.call keeps
  unfold makeLast
  split
  · next made =>
    rw [made] at called
    exact called
  · exact called

theorem makeDown_holds
    (keeps : ∀ path, Leads path top → ∀ before after, P before →
      before.makeFolder path = .ok after → P after)
    (depth : Nat) (leads : Leads path top) (holds : session.Holds P) :
    (makeDown depth path session).1.Holds P := by
  have last {session : Session} (holds : session.Holds P) : (makeLast path session).1.Holds P :=
    makeLast_holds holds fun after made => keeps path leads _ after holds.1 made
  induction depth generalizing path session with
  | zero => exact last holds
  | succ depth ih =>
    cases cut : aboveOf path with
    | mk above name =>
      unfold makeDown
      simp only [cut]
      split
      · exact last holds
      · next further =>
        simp only [Bool.or_eq_true, String.isEmpty_iff, not_or] at further
        have up := leads.above cut further.1.1 further.1.2
        have before := ih up holds fun holds => makeLast_holds holds fun after made =>
          keeps above up _ after holds.1 made
        split
        · next s made =>
          rw [made] at before
          split
          · exact before
          · exact last before
        · next s made =>
          rw [made] at before
          split
          · exact before
          · exact last before
        · exact before

theorem makeLast_refused {e : CallError} (clean : Char.ofNat 0 ∉ path.toList)
    (failed : (makeLast path session).2 = .error e) : ∃ fault, e = .refused fault := by
  unfold makeLast at failed
  split at failed
  · split at failed
    · simp at failed
    · exact ⟨_, (Except.error.inj failed).symm⟩
  · exact Disk.call_refused clean (Session.call_error failed).1

theorem makeDown_refused {e : CallError} (depth : Nat) (clean : Char.ofNat 0 ∉ path.toList)
    (failed : (makeDown depth path session).2 = .error e) : ∃ fault, e = .refused fault := by
  induction depth generalizing path session e with
  | zero => exact makeLast_refused clean failed
  | succ depth ih =>
    cases cut : aboveOf path with
    | mk above name =>
      unfold makeDown at failed
      simp only [cut] at failed
      split at failed
      · exact makeLast_refused clean failed
      · next further =>
        simp only [Bool.or_eq_true, String.isEmpty_iff, not_or] at further
        obtain ⟨-, rest, -, whole⟩ := aboveOf_parts cut further.1.2
        have upper : Char.ofNat 0 ∉ above.toList := fun member =>
          clean (whole ▸ List.mem_append_left _ member)
        split at failed
        · split at failed
          · simp at failed
          · exact makeLast_refused clean failed
        · split at failed
          · simp at failed
          · exact makeLast_refused clean failed
        · exact ih upper failed

end folders

end RowStore.Files
