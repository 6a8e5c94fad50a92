import DeviceAtlas.Discovery.Pass
import DeviceAtlas.Proofs.Positions

/-!
# Publishing is all or nothing

A matrix gets into a topology in three steps. The name is looked at first, then the objects and the
values together, and the last step takes whatever has come so far. So either the matrix is stored as
it is, or nothing is.

* `Topology.attach_eq_ok_iff`: when a pending matrix takes its content.
* `Topology.failure_of_attach`: why it does not.
* `value_publish_of_name_ne_empty`: a matrix with a name is stored if it takes its content.
* `publication_publish`: when a matrix is published, what is stored then, and why not else.
-/

namespace DeviceAtlas

/-! ## Sound content -/

namespace Distance

/-- Content relates different objects of the tree, at least one, and has a value for each pair. -/
structure Content.IsSound (t : Topology) (c : Content) : Prop where
  objects_ne_nil : c.objects ≠ []
  nodup : c.objects.Nodup
  inserted : ∀ id ∈ c.objects, t.isInserted id
  square : c.values.size = c.objects.length * c.objects.length

/-- Objects pass if they are members, all different, and none of them came before. -/
theorem checkObjects_eq_ok_iff {isMember : ObjectId → Bool}
    {before ids : List ObjectId} :
    checkObjects isMember before ids = .ok () ↔
      (∀ id ∈ ids, isMember id) ∧ ids.Nodup ∧ ∀ id ∈ ids, id ∉ before := by
  induction ids generalizing before with
  | nil => simp [checkObjects]
  | cons id rest ih =>
    unfold checkObjects
    by_cases member : isMember id
    · by_cases again : id ∈ before
      · simp [member, again]
      · simp only [member, again, Bool.not_true, Bool.false_eq_true, if_false, ih]
        simp only [List.forall_mem_cons, List.nodup_cons, List.mem_append, List.mem_singleton,
          not_or]
        constructor
        · rintro ⟨members, nodup, new⟩
          refine ⟨⟨member, members⟩, ⟨fun listed => (new id listed).2 rfl, nodup⟩, again,
            fun other listed => (new other listed).1⟩
        · rintro ⟨⟨_, members⟩, ⟨first, nodup⟩, _, new⟩
          refine ⟨members, nodup, fun other listed => ⟨new other listed, ?_⟩⟩
          rintro rfl
          exact first listed
    · simp [member]

/-- The first fault of a list of objects. All objects before it are members and different; the
object itself is no member, or it is one and came before. -/
def FirstFault (isMember : ObjectId → Bool) (ids : List ObjectId) (failure : Failure) : Prop :=
  ∃ before id after, ids = before ++ id :: after ∧ before.Nodup ∧
    (∀ other ∈ before, isMember other) ∧
    if isMember id then id ∈ before ∧ failure = .duplicateObject id
    else failure = .unknownObject id

/-- Objects that do not pass are refused for their first fault. -/
theorem firstFault_of_checkObjects {isMember : ObjectId → Bool} {before ids : List ObjectId}
    {failure : Failure} (nodup : before.Nodup) (members : ∀ other ∈ before, isMember other)
    (refused : checkObjects isMember before ids = .error failure) :
    FirstFault isMember (before ++ ids) failure := by
  induction ids generalizing before with
  | nil => cases refused
  | cons id rest ih =>
    unfold checkObjects at refused
    by_cases member : isMember id
    · by_cases again : id ∈ before
      · simp only [member, again, Bool.not_true, Bool.false_eq_true, if_false, if_true] at refused
        cases refused
        exact ⟨before, id, rest, rfl, nodup, members, by rw [if_pos member]; exact ⟨again, rfl⟩⟩
      · -- the object passes, and joins those that came before
        simp only [member, again, Bool.not_true, Bool.false_eq_true, if_false] at refused
        rw [List.append_cons]
        refine ih ?_ (List.forall_mem_append.2 ⟨members, by simpa using member⟩) refused
        rw [List.nodup_append_comm]
        exact List.nodup_cons.2 ⟨again, nodup⟩
    · simp only [member, Bool.not_false, if_true] at refused
      cases refused
      exact ⟨before, id, rest, rfl, nodup, members, by rw [if_neg member]⟩

/-! ## Stored matrices -/

namespace Matrix

/-- Where the objects are different, each is found in its place. -/
theorem indexOf?_eq_some_iff {m : Matrix} (nodup : m.objects.Nodup) {id : ObjectId} {i : ℕ} :
    m.indexOf? id = some i ↔ m.objects[i]? = some id :=
  idxOf?_eq_some_iff_of_nodup nodup

/-- The value of a pair stands in the row of the one and the column of the other. -/
theorem exists_value?_eq {m : Matrix} (nodup : m.objects.Nodup)
    (square : m.values.size = m.objects.length * m.objects.length) {i j : ℕ} {a b : ObjectId}
    (row : m.objects[i]? = some a) (column : m.objects[j]? = some b) :
    ∃ v, m.values[i * m.objects.length + j]? = some v ∧ m.value? a b = some v := by
  have hi := (List.getElem?_eq_some_iff.1 row).1
  have hj := (List.getElem?_eq_some_iff.1 column).1
  have within : i * m.objects.length + j < m.values.size := by
    calc i * m.objects.length + j < (i + 1) * m.objects.length := by
          rw [Nat.add_mul, Nat.one_mul]
          omega
      _ ≤ m.objects.length * m.objects.length := Nat.mul_le_mul_right _ hi
      _ = m.values.size := square.symm
  refine ⟨_, Array.getElem?_eq_getElem within, ?_⟩
  rw [value?, (indexOf?_eq_some_iff nodup).2 row, (indexOf?_eq_some_iff nodup).2 column]
  exact Array.getElem?_eq_getElem within

/-- There is a value exactly for the pairs of objects of the matrix. -/
theorem isSome_value?_iff {m : Matrix} (nodup : m.objects.Nodup)
    (square : m.values.size = m.objects.length * m.objects.length) (a b : ObjectId) :
    (m.value? a b).isSome ↔ a ∈ m.objects ∧ b ∈ m.objects := by
  constructor
  · intro some
    obtain ⟨v, found⟩ := Option.isSome_iff_exists.1 some
    obtain ⟨i, row, rest⟩ := Option.bind_eq_some_iff.1 found
    obtain ⟨j, column, _⟩ := Option.bind_eq_some_iff.1 rest
    exact ⟨List.mem_of_getElem? ((indexOf?_eq_some_iff nodup).1 row),
      List.mem_of_getElem? ((indexOf?_eq_some_iff nodup).1 column)⟩
  · rintro ⟨ha, hb⟩
    obtain ⟨i, row⟩ := List.mem_iff_getElem?.1 ha
    obtain ⟨j, column⟩ := List.mem_iff_getElem?.1 hb
    obtain ⟨v, _, found⟩ := exists_value?_eq nodup square row column
    rw [found, Option.isSome_some]

end Matrix

end Distance

/-! ## What a topology takes -/

/-- **A pending matrix takes its content** if it has none yet and the content is sound. -/
theorem Topology.attach_eq_ok_iff {t : Topology} {p p' : Distance.Pending}
    {content : Distance.Content} :
    t.attach p content = .ok p' ↔
      p.content = none ∧ content.IsSound t ∧ p' = { p with content := some content } := by
  unfold attach Distance.Pending.attach
  have sound : content.IsSound t ↔ content.objects ≠ [] ∧
      content.values.size = content.objects.length * content.objects.length ∧
      Distance.checkObjects t.isInserted [] content.objects = .ok () := by
    rw [Distance.checkObjects_eq_ok_iff]
    constructor
    · rintro ⟨some, nodup, inserted, square⟩
      exact ⟨some, square, inserted, nodup, fun _ _ => List.not_mem_nil⟩
    · rintro ⟨some, square, inserted, nodup, _⟩
      exact ⟨some, nodup, inserted, square⟩
  rw [sound]
  cases p.content with
  | some before => simp
  | none =>
    by_cases none : content.objects = []
    · simp [none]
    · by_cases square : content.values.size = content.objects.length * content.objects.length
      · cases Distance.checkObjects t.isInserted [] content.objects with
        | error failure => simp [none, square, Except.map]
        | ok u =>
          simp only [none, square, Except.map, List.isEmpty_iff, Option.isSome_none, ne_eq,
            not_true_eq_false, not_false_eq_true, if_false, Bool.false_eq_true, true_and,
            Except.ok.injEq]
          exact eq_comm
      · simp [none, square]

/-- Content is refused for want of objects, then for the number of its values, and then for the
first fault of its objects. -/
theorem Topology.failure_of_attach {t : Topology} {p : Distance.Pending}
    {content : Distance.Content} {failure : Distance.Failure} (empty : p.content = none)
    (refused : t.attach p content = .error failure) :
    if content.objects = [] then failure = .noObjects p.name
    else if content.values.size = content.objects.length * content.objects.length then
      Distance.FirstFault t.isInserted content.objects failure
    else failure = .sizeMismatch p.name (content.objects.length * content.objects.length)
      content.values.size := by
  unfold attach Distance.Pending.attach at refused
  rw [empty] at refused
  by_cases none : content.objects = []
  · rw [if_pos none]
    simp only [none, Option.isSome_none, Bool.false_eq_true, if_false, List.isEmpty_nil,
      if_true] at refused
    cases refused
    rfl
  · rw [if_neg none]
    by_cases square : content.values.size = content.objects.length * content.objects.length
    · rw [if_pos square]
      simp only [none, square, Option.isSome_none, Bool.false_eq_true, if_false, ne_eq,
        not_true_eq_false, List.isEmpty_iff] at refused
      cases checked : Distance.checkObjects t.isInserted [] content.objects with
      | ok u =>
        rw [checked] at refused
        cases refused
      | error first =>
        rw [checked] at refused
        cases refused
        exact Distance.firstFault_of_checkObjects .nil (fun _ listed => by cases listed) checked
    · rw [if_neg square]
      simp only [none, square, Option.isSome_none, Bool.false_eq_true, if_false, ne_eq,
        not_false_eq_true, if_true, List.isEmpty_iff] at refused
      cases refused
      rfl

/-! ## Publishing -/

/-- A matrix between registered objects, as a topology stores it. -/
def BandwidthMatrix.stored (m : BandwidthMatrix) (r : Registry) (name : String) :
    Distance.Matrix :=
  ⟨⟨r.nodes, m.values⟩, name, .measuredBandwidth⟩

section Publishing

variable {t : Topology} {r : Registry} {m : BandwidthMatrix} {settings : Settings}

/-- Squares of sizes tell the sizes. -/
theorem BandwidthMatrix.size_values_eq_iff :
    m.values.size = r.nodes.length * r.nodes.length ↔ m.size = r.size := by
  rw [m.square]
  exact Nat.mul_self_inj

/-- The content is sound if it is about different objects of the tree and the matrix is as large as
the registry. -/
theorem BandwidthMatrix.isSound_iff : (⟨r.nodes, m.values⟩ : Distance.Content).IsSound t ↔
    r.nodes ≠ [] ∧ r.nodes.Nodup ∧ (∀ id ∈ r.nodes, t.isInserted id) ∧ m.size = r.size := by
  constructor
  · rintro ⟨some, nodup, inserted, square⟩
    exact ⟨some, nodup, inserted, size_values_eq_iff.1 square⟩
  · rintro ⟨some, nodup, inserted, fits⟩
    exact ⟨some, nodup, inserted, size_values_eq_iff.2 fits⟩

/-- Without a name nothing is published, and the matrix comes back. -/
theorem value_publish_of_name_eq_empty (unnamed : settings.matrixName = "")
    (t : Topology) (r : Registry) (m : BandwidthMatrix) :
    (publish Topology.matrixStore t r m settings).value =
      (.failed .announce .emptyName (some m), t) := by
  simp only [publish, unnamed]
  rfl

/-- **A matrix with a name is stored if it takes its content**, and else nothing is. -/
theorem value_publish_of_name_ne_empty (named : settings.matrixName ≠ "") (t : Topology)
    (r : Registry) (m : BandwidthMatrix) :
    (publish Topology.matrixStore t r m settings).value =
      match t.attach ⟨settings.matrixName, .measuredBandwidth, none⟩ ⟨r.nodes, m.values⟩ with
      | .error failure => (.failed .attach failure none, t)
      | .ok _ => (.published settings.matrixName m.size,
          { t with distances := t.distances ++ [m.stored r settings.matrixName] }) := by
  have announced : Distance.Pending.announce settings.matrixName .measuredBandwidth =
      .ok ⟨settings.matrixName, .measuredBandwidth, none⟩ := by
    rw [Distance.Pending.announce, if_neg named]
    rfl
  simp only [publish, Topology.matrixStore, Logged.value_bind, Logged.value_pure, announced]
  cases attached : t.attach ⟨settings.matrixName, .measuredBandwidth, none⟩
      ⟨r.nodes, m.values⟩ with
  | error failure => rfl
  | ok pending =>
    -- what has taken its content is stored as it is
    obtain ⟨_, _, rfl⟩ := Topology.attach_eq_ok_iff.1 attached
    rfl

/-- **A matrix between different objects of the tree is stored**, if it has a name. -/
theorem value_publish (named : settings.matrixName ≠ "") (some : r.nodes ≠ [])
    (nodup : r.nodes.Nodup) (inserted : ∀ id ∈ r.nodes, t.isInserted id) (fits : m.size = r.size) :
    (publish Topology.matrixStore t r m settings).value =
      (.published settings.matrixName r.size,
        { t with distances := t.distances ++ [m.stored r settings.matrixName] }) := by
  have sound := BandwidthMatrix.isSound_iff.2 ⟨some, nodup, inserted, fits⟩
  rw [value_publish_of_name_ne_empty named, Topology.attach_eq_ok_iff.2 ⟨rfl, sound, rfl⟩, fits]

/-- Whatever becomes of a matrix, the objects stay as they are. -/
theorem object?_publish (t : Topology) (r : Registry) (m : BandwidthMatrix) (settings : Settings)
    (id : ObjectId) :
    (publish Topology.matrixStore t r m settings).value.2.object? id = t.object? id := by
  by_cases unnamed : settings.matrixName = ""
  · rw [value_publish_of_name_eq_empty unnamed]
  · rw [value_publish_of_name_ne_empty unnamed]
    split <;> rfl

/-- **The three ways in which publishing ends.** -/
theorem publish_cases (t : Topology) (r : Registry) (m : BandwidthMatrix) (settings : Settings) :
    let name := settings.matrixName
    let sound := r.nodes ≠ [] ∧ r.nodes.Nodup ∧ (∀ id ∈ r.nodes, t.isInserted id) ∧
      m.size = r.size
    let outcome := (publish Topology.matrixStore t r m settings).value
    name = "" ∧ outcome = (.failed .announce .emptyName (some m), t) ∨
    name ≠ "" ∧ ¬ sound ∧ (∃ failure, outcome = (.failed .attach failure none, t) ∧
      if r.nodes = [] then failure = .noObjects name
      else if m.size = r.size then Distance.FirstFault t.isInserted r.nodes failure
      else failure = .sizeMismatch name (r.size * r.size) (m.size * m.size)) ∨
    name ≠ "" ∧ sound ∧ outcome = (.published name m.size,
      { t with distances := t.distances ++ [m.stored r name] }) := by
  intro name sound outcome
  by_cases unnamed : name = ""
  · exact .inl ⟨unnamed, value_publish_of_name_eq_empty unnamed t r m⟩
  · have ended := value_publish_of_name_ne_empty unnamed t r m
    cases attached : t.attach ⟨name, .measuredBandwidth, none⟩ ⟨r.nodes, m.values⟩ with
    | error failure =>
      rw [attached] at ended
      have unsound : ¬ sound := fun h => by
        rw [Topology.attach_eq_ok_iff.2 ⟨rfl, BandwidthMatrix.isSound_iff.2 h, rfl⟩] at attached
        cases attached
      have why := Topology.failure_of_attach rfl attached
      simp only [BandwidthMatrix.size_values_eq_iff] at why
      rw [m.square] at why
      exact .inr (.inl ⟨unnamed, unsound, failure, ended, why⟩)
    | ok pending =>
      rw [attached] at ended
      have h := (Topology.attach_eq_ok_iff.1 attached).2.1
      exact .inr (.inr ⟨unnamed, BandwidthMatrix.isSound_iff.1 h, ended⟩)

/-- A stored matrix has its values where the registry has its objects. -/
theorem value?_eq_get? (fits : m.size = r.size) (name : String) {u v : ObjectId}
    {row column : ℕ} (hu : r.find? u = some row) (hv : r.find? v = some column) :
    (m.stored r name).value? u v = m.get? row column := by
  have hr : row < m.size := by
    rw [fits]
    exact (List.idxOf?_eq_some_iff.1 hu).1
  have hc : column < m.size := by
    rw [fits]
    exact (List.idxOf?_eq_some_iff.1 hv).1
  have stored : (m.stored r name).value? u v =
      (r.find? u).bind fun row => (r.find? v).bind fun column =>
        m.values[row * r.nodes.length + column]? := rfl
  have cell : m.cell? row column = some (row * r.nodes.length + column) := by
    rw [BandwidthMatrix.cell?, if_pos ⟨hr, hc⟩, fits]
    rfl
  rw [stored, hu, hv, BandwidthMatrix.get?, cell]
  rfl

end Publishing

/-- **Publishing into a topology is all or nothing.** A matrix is published exactly if it has a
name, relates the registered objects, of which there are some, all different and all in the tree,
and is as large as the registry. Then one matrix is stored after those that there were, of this name
and kind, with the registered objects in their order and with the values in their rows and columns.
Otherwise the topology is as it was: without a name the matrix comes back, and else the failure is
that of the first of these demands that is not met. -/
theorem publication_publish (t : Topology) (r : Registry) (m : BandwidthMatrix)
    (settings : Settings) :
    let name := settings.matrixName
    let outcome := (publish Topology.matrixStore t r m settings).value
    (outcome.1.isPublished ↔ name ≠ "" ∧ r.nodes ≠ [] ∧ r.nodes.Nodup ∧
      (∀ id ∈ r.nodes, t.isInserted id) ∧ m.size = r.size) ∧
    (outcome.1.isPublished → outcome.1 = .published name m.size ∧
      ∃ d : Distance.Matrix, outcome.2 = { t with distances := t.distances ++ [d] } ∧
        d.name = name ∧ d.kind = .fromOs ||| .meansBandwidth ∧ d.objects = r.nodes ∧
        d.values = m.values ∧
        ∀ (i j : ℕ) (a b : ObjectId), r.nodes[i]? = some a → r.nodes[j]? = some b →
          d.value? a b = m.get? i j) ∧
    (¬ outcome.1.isPublished → outcome.2 = t ∧
      if name = "" then outcome.1 = .failed .announce .emptyName (some m)
      else ∃ failure, outcome.1 = .failed .attach failure none ∧
        if r.nodes = [] then failure = .noObjects name
        else if m.size = r.size then Distance.FirstFault t.isInserted r.nodes failure
        else failure = .sizeMismatch name (r.size * r.size) (m.size * m.size)) := by
  intro name outcome
  rcases publish_cases t r m settings with ⟨unnamed, ended⟩ |
    ⟨named, unsound, failure, ended, why⟩ | ⟨named, sound, ended⟩
  · rw [show outcome = _ from ended]
    refine ⟨⟨fun published => ?_, fun sound => absurd unnamed sound.1⟩, fun published => ?_,
      fun _ => ⟨rfl, ?_⟩⟩
    · cases published
    · cases published
    · rw [if_pos unnamed]
  · rw [show outcome = _ from ended]
    refine ⟨⟨fun published => ?_, fun sound => absurd sound.2 unsound⟩, fun published => ?_,
      fun _ => ⟨rfl, ?_⟩⟩
    · cases published
    · cases published
    · rw [if_neg named]
      exact ⟨failure, rfl, why⟩
  · rw [show outcome = _ from ended]
    refine ⟨⟨fun _ => ⟨named, sound⟩, fun _ => rfl⟩,
      fun _ => ⟨rfl, m.stored r name, rfl, rfl, rfl, rfl, rfl, fun i j a b row column => ?_⟩,
      fun unpublished => absurd rfl unpublished⟩
    obtain ⟨_, nodup, _, fits⟩ := sound
    exact value?_eq_get? fits name ((idxOf?_eq_some_iff_of_nodup nodup).2 row)
      ((idxOf?_eq_some_iff_of_nodup nodup).2 column)

theorem publication_publish_machine :
    (publish Topology.matrixStore .initial ⟨[Topology.root], 1⟩ ⟨1, #[5], rfl⟩ {}).value.1 =
        .published "XeLinkBandwidth" 1 ∧
      (publish Topology.matrixStore .initial ⟨[Topology.root], 1⟩ ⟨2, #[5, 6, 7, 8], rfl⟩ {}).value =
        (.failed .attach (.sizeMismatch "XeLinkBandwidth" 1 4) none, .initial) := by
  constructor
  · obtain ⟨accepted, stored, _⟩ :=
      publication_publish .initial ⟨[Topology.root], 1⟩ ⟨1, #[5], rfl⟩ {}
    exact (stored (accepted.2 (by decide))).1
  · obtain ⟨accepted, _, refused⟩ :=
      publication_publish .initial ⟨[Topology.root], 1⟩ ⟨2, #[5, 6, 7, 8], rfl⟩ {}
    obtain ⟨same, why⟩ := refused fun published => absurd (accepted.1 published) (by decide)
    rw [if_neg (by decide)] at why
    obtain ⟨failure, ended, why⟩ := why
    rw [if_neg (by decide), if_neg (by decide)] at why
    rw [why] at ended
    exact Prod.ext ended same

end DeviceAtlas
