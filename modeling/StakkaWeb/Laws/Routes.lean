import StakkaWeb.Routes

/-!
# Which requests SQLite can answer

A slot is clamped before it is bound, and what the database has answered can be bound again. An id
from the path and the offset of a page are bound as they come.
-/

set_option autoImplicit false

namespace StakkaWeb

namespace Route

/-- The integers that the request itself brings to a statement are small enough. -/
def Request.Bounded : Request → Prop
  | .index page list => (max 1 (intArg page 1) - 1) * perPage list < 2 ^ 63
  | .discPage discId | .discEdit discId _ | .discDelete discId _ | .discEject discId
  | .discReturn discId | .discMarkOut discId | .discMarkStored discId => discId < 2 ^ 63
  | .add _ | .reconcileManual _ _ => True

theorem bindable_nat {n : Nat} : Bindable n ↔ n < 2 ^ 63 := by
  unfold Bindable
  omega

/-- A statement goes through when all its integers can be bound. -/
theorem bind_ok : ∀ {args : List Int}, bind args = .ok () ↔ ∀ n ∈ args, Bindable n
  | [] => by simp [bind, pure, Except.pure]
  | n :: args => by
    unfold bind
    by_cases hn : Bindable n
    · simp [hn, bind_ok]
    · simp [hn, throw, throwThe, MonadExceptOf.throw]

theorem bind_one {n : Int} (h : Bindable n) : bind [n] = .ok () :=
  bind_ok.mpr fun _ hm => List.mem_singleton.mp hm ▸ h

/-- A statement that went through hands its answer on. -/
theorem ok_bind {α β : Type} (a : α) (f : α → Except OverflowError β) :
    (Except.ok a >>= f) = f a := rfl

theorem slot_bindable (slot : FormSlot) : Bindable slot.val := by
  have := slot.high
  have : slotMax = 100 := rfl
  exact bindable_nat.mpr (by omega)

section Statements

variable {db : Reads} {discId : Nat}

theorem getDisc_ok (h : discId < 2 ^ 63) : getDisc db discId = .ok db.disc := by
  unfold getDisc
  rw [bind_one (bindable_nat.mpr h), ok_bind]
  rfl

/-- An id from the path is bound before anything is known of it. -/
theorem getDisc_overflows (h : ¬ discId < 2 ^ 63) :
    getDisc db discId = .error (.tooLarge discId) := by
  unfold getDisc bind
  rw [if_neg (mt bindable_nat.mp h)]
  rfl

theorem getBySlot_ok (slot : FormSlot) : getBySlot db slot = .ok db.taken := by
  unfold getBySlot
  rw [bind_one (slot_bindable slot), ok_bind]
  rfl

theorem logEvent_ok {id slot : Option Int} (hid : ∀ n ∈ id, Bindable n)
    (hslot : ∀ n ∈ slot, Bindable n) : logEvent id slot = .ok () := by
  unfold logEvent
  rw [bind_ok]
  intro n hn
  rcases List.mem_append.mp hn with hn | hn
  · exact hid n (Option.mem_toList.mp hn)
  · exact hslot n (Option.mem_toList.mp hn)

theorem some_bindable {m : Int} (h : Bindable m) : ∀ n ∈ some m, Bindable n :=
  fun _ hn => Option.mem_some.mp hn ▸ h

theorem createDisc_ok (slot : FormSlot) : createDisc db slot = .ok () := by
  unfold createDisc
  rw [bind_one (slot_bindable slot), ok_bind]
  exact logEvent_ok (some_bindable db.lastrowid.bindable) (some_bindable (slot_bindable slot))

theorem updateDisc_ok (h : discId < 2 ^ 63) : updateDisc discId = .ok () :=
  bind_one (bindable_nat.mpr h)

/-- The slot of a row that was read can be bound. -/
theorem row_bindable (row : Option Row) : ∀ n ∈ row.map (·.slot.val), Bindable n := by
  intro n hn
  obtain ⟨r, _, rfl⟩ := Option.map_eq_some_iff.mp hn
  exact r.slot.bindable

theorem setStatus_ok (h : discId < 2 ^ 63) : setStatus db discId = .ok () := by
  have hid : Bindable discId := bindable_nat.mpr h
  unfold setStatus
  rw [bind_one hid, ok_bind, ok_bind]
  exact logEvent_ok (some_bindable hid) (row_bindable db.again)

theorem deleteDisc_ok (h : discId < 2 ^ 63) : deleteDisc db discId = .ok () := by
  unfold deleteDisc
  rw [bind_one (bindable_nat.mpr h), ok_bind, ok_bind]
  exact logEvent_ok nofun (row_bindable db.again)

theorem listDiscs_ok {page : Int} {n : Nat} (hn : (n : Int) < 2 ^ 63) :
    listDiscs page n = .ok () ↔ (max page 1 - 1) * n < 2 ^ 63 := by
  have hpos : 0 ≤ (max page 1 - 1) * n :=
    mul_nonneg (by have := le_max_right page 1; omega) (Int.natCast_nonneg n)
  unfold listDiscs
  rw [bind_ok]
  unfold Bindable
  constructor
  · intro h
    exact (h _ (List.mem_cons_of_mem _ List.mem_cons_self)).2
  · intro h m hm
    rcases List.mem_cons.mp hm with rfl | hm
    · exact ⟨by omega, hn⟩
    · cases List.mem_singleton.mp hm
      exact ⟨by omega, h⟩

end Statements

section Handlers

variable {db : Reads} {discId : Nat}

theorem index_ok {page : Option Int} {list : Bool} :
    (∃ answer, index page list = .ok answer) ↔
      (max 1 (intArg page 1) - 1) * perPage list < 2 ^ 63 := by
  have hper : (perPage list : Int) < 2 ^ 63 := by cases list <;> decide
  have hmax : max (max 1 (intArg page 1)) 1 = max 1 (intArg page 1) :=
    max_eq_left (le_max_left _ _)
  have hindex : (∃ answer, index page list = .ok answer) ↔
      listDiscs (max 1 (intArg page 1)) (perPage list) = .ok () := by
    have hrun : index page list =
        (listDiscs (max 1 (intArg page 1)) (perPage list) >>= fun _ => pure .page) := rfl
    rw [hrun]
    cases listDiscs (max 1 (intArg page 1)) (perPage list) with
    | error e =>
      constructor
      · rintro ⟨_, h⟩
        cases h
      · intro h
        cases h
    | ok a => exact ⟨fun _ => rfl, fun _ => ⟨.page, rfl⟩⟩
  rw [hindex, listDiscs_ok hper, hmax]

theorem discPage_ok (h : discId < 2 ^ 63) : ∃ answer, discPage db discId = .ok answer := by
  unfold discPage
  rw [getDisc_ok h]
  cases db.disc <;> exact ⟨_, rfl⟩

theorem discEdit_ok (form : Option EditForm) (h : discId < 2 ^ 63) :
    ∃ answer, discEdit db discId form = .ok answer := by
  unfold discEdit
  rw [getDisc_ok h, updateDisc_ok h]
  cases db.disc with
  | none => exact ⟨_, rfl⟩
  | some _ => rcases form.map EditForm.fields with _ | _ | _ <;> exact ⟨_, rfl⟩

theorem discDelete_ok (confirmed : Bool) (h : discId < 2 ^ 63) :
    ∃ answer, discDelete db discId confirmed = .ok answer := by
  unfold discDelete
  rw [getDisc_ok h, deleteDisc_ok h]
  cases db.disc with
  | none => exact ⟨_, rfl⟩
  | some _ => cases db.inUse <;> cases confirmed <;> exact ⟨_, rfl⟩

theorem discMove_ok (h : discId < 2 ^ 63) : ∃ answer, discMove db discId = .ok answer := by
  unfold discMove
  rw [getDisc_ok h]
  cases db.disc <;> exact ⟨_, rfl⟩

theorem correct_ok (status : Status) (h : discId < 2 ^ 63) :
    ∃ answer, correct db discId status = .ok answer := by
  unfold correct
  rw [getDisc_ok h, setStatus_ok h]
  cases db.disc with
  | none => exact ⟨_, rfl⟩
  | some disc =>
    cases db.inUse with
    | true => exact ⟨_, rfl⟩
    | false =>
      by_cases hs : disc.status = status
      · exact ⟨.redirect, if_pos hs⟩
      · exact ⟨.redirect, if_neg hs⟩

theorem add_ok (slot : Option (Option Int)) : ∃ answer, add db slot = .ok answer := by
  unfold add
  cases slot with
  | none => exact ⟨_, rfl⟩
  | some slot =>
    dsimp only
    cases formSlot slot with
    | none => exact ⟨_, rfl⟩
    | some slot =>
      dsimp only
      rw [getBySlot_ok]
      exact ⟨.redirect, rfl⟩

theorem reconcileManual_ok (slot : Option Int) (title : Option String) :
    ∃ answer, reconcileManual db slot title = .ok answer := by
  unfold reconcileManual
  cases formSlot slot with
  | none => exact ⟨_, rfl⟩
  | some slot =>
    cases formText title with
    | none => exact ⟨_, rfl⟩
    | some _ =>
      dsimp only
      rw [getBySlot_ok, createDisc_ok]
      cases db.taken <;> cases db.inUse <;> exact ⟨_, rfl⟩

/-- A handler that reads its disc first cannot do without a small id. -/
theorem overflows (h : ¬ discId < 2 ^ 63) (f : Option Row → Except OverflowError Answer) :
    ¬ ∃ answer, (getDisc db discId >>= f) = .ok answer := by
  rw [getDisc_overflows h]
  rintro ⟨_, hanswer⟩
  cases hanswer

end Handlers

/-- **A request is answered exactly when it brings no integer that SQLite cannot hold**, whatever the
database holds: an id in the path, or a page whose offset is too large. -/
theorem handle_answers (db : Reads) (req : Request) :
    (∃ answer, handle db req = .ok answer) ↔ req.Bounded := by
  have hid : ∀ {discId : Nat} {f : Option Row → Except OverflowError Answer},
      (discId < 2 ^ 63 → ∃ answer, (getDisc db discId >>= f) = .ok answer) →
      ((∃ answer, (getDisc db discId >>= f) = .ok answer) ↔ discId < 2 ^ 63) := by
    intro discId f hok
    refine ⟨fun h => ?_, hok⟩
    by_contra hbig
    exact overflows hbig _ h
  cases req with
  | index page list => exact index_ok
  | discPage discId => exact hid discPage_ok
  | discEdit discId form => exact hid (discEdit_ok form)
  | discDelete discId confirmed => exact hid (discDelete_ok confirmed)
  | discEject discId => exact hid discMove_ok
  | discReturn discId => exact hid discMove_ok
  | discMarkOut discId => exact hid (correct_ok .out)
  | discMarkStored discId => exact hid (correct_ok .stored)
  | add slot => exact iff_of_true (add_ok slot) trivial
  | reconcileManual slot title => exact iff_of_true (reconcileManual_ok slot title) trivial

/-- `/disc/9223372036854775808` is answered with neither a page nor a 404. -/
theorem handle_answers_discPage :
    ¬ ∀ db, ∃ answer, handle db (.discPage 9223372036854775808) = .ok answer := fun h =>
  overflows (by decide) _ (h ⟨none, none, false, false, ⟨0, by decide⟩⟩)

end Route

end StakkaWeb
