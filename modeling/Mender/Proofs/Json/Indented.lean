import Mender.Proofs.Json.Scalar

/-!
# Reading what was written: lists and objects

A value that is written over several lines is read as itself (`read_indented`), unless it holds a
double, a surrogate, a number too long for a numeral, or two members of one name (`IsPlain`).
The lists and objects in it may go as deep as the reader goes.

The induction is over the depth of the value; inside a list or an object it is over the items or the
members. The fuel that is needed is bounded by the length of the text.
-/

namespace Mender.Json

open Text

variable {fuel position room level : Nat} {v : Json} {vs : List Json}
  {ms seen : List (Loose × Json)} {rest : List Point} {c after : Cursor}

/-! ## Values that are read as they are written -/

/-- A value without doubles and surrogates, whose numbers are short enough for numerals, with
    members of different names in each object, and lists and objects at most `depth` deep. -/
def IsPlain : (depth : Nat) → Json → Prop
  | depth + 1, .arr vs => ∀ v ∈ vs, IsPlain depth v
  | depth + 1, .obj ms =>
    (ms.map (·.1)).Nodup ∧ ∀ m ∈ ms, m.1.whole?.isSome ∧ IsPlain depth m.2
  | 0, .arr _ | 0, .obj _ => False
  | _, .null | _, .bool _ => True
  | _, .int i => IsShort i
  | _, .real _ => False
  | _, .str s => s.whole?.isSome

/-! ## Blanks -/

/-- There is no blank at the head of the text. -/
def Bare (s : List Point) : Prop := (s.head?.any (Point.holds isJsonBlank)) = false

theorem skipBlanks_append (cs : List Char) (hblank : ∀ c ∈ cs, isJsonBlank c = true)
    (h : Bare rest) : Cursor.skipBlanks ⟨cs.map .char ++ rest, position, room⟩ =
      ⟨rest, position + cs.length, room⟩ := by
  have hspan : (cs.map Point.char ++ rest).takeWhile (Point.holds isJsonBlank) =
      cs.map Point.char := by
    rw [List.takeWhile_append_of_pos (by simpa [Point.holds] using hblank)]
    cases rest with
    | nil => simp
    | cons p rest =>
      rw [List.takeWhile_cons_of_neg (by simpa [Bare] using h), List.append_nil]
  rw [Cursor.skipBlanks, hspan, List.length_map, skip_append]

theorem skipBlanks_bare (h : Bare rest) :
    Cursor.skipBlanks ⟨rest, position, room⟩ = ⟨rest, position, room⟩ :=
  skipBlanks_append [] (by simp) h

theorem skipBlanks_newLine (h : Bare rest) :
    Cursor.skipBlanks ⟨(newLine level).map .char ++ rest, position, room⟩ =
      ⟨rest, position + (newLine level).length, room⟩ := by
  refine skipBlanks_append _ ?_ h
  simp [newLine, isJsonBlank]

theorem skipBlanks_space (h : Bare rest) :
    Cursor.skipBlanks ⟨.char ' ' :: rest, position, room⟩ = ⟨rest, position + 1, room⟩ :=
  skipBlanks_append [' '] (by simp [isJsonBlank]) h

theorem skipBlanks_colon : Cursor.skipBlanks ⟨.char ':' :: rest, position, room⟩ =
    ⟨.char ':' :: rest, position, room⟩ :=
  skipBlanks_bare rfl

theorem skipBlanks_comma : Cursor.skipBlanks ⟨.char ',' :: rest, position, room⟩ =
    ⟨.char ',' :: rest, position, room⟩ :=
  skipBlanks_bare rfl

theorem ends_newLine : Ends ((newLine level).map .char ++ rest) := .line _

/-! ## One step of the reader -/

theorem ok_of_position {α : Type} {a : α} {q : Nat} (h : position = q) :
    (.ok (a, ⟨rest, position, room⟩) : Reading α) = .ok (a, ⟨rest, q, room⟩) := by
  rw [h]

theorem value_scalar (h : ∀ a ∈ ['"', '[', '{'], c.rest.head? ≠ some (.char a)) :
    value (fuel + 1) c = scalar c := by
  rw [value]
  split <;> simp_all

theorem value_quote : value (fuel + 1) ⟨.char '"' :: rest, position, room⟩ =
    (string ⟨rest, position + 1, room⟩).map .str := by
  rw [value]
  rfl

theorem value_arr {s : List Point} {q : Nat}
    (hinner : Cursor.skipBlanks ⟨s, position + 1, room⟩ = c)
    (hhead : c.rest.head? ≠ some (.char ']')) (hitems : items fuel c = .ok (vs, ⟨rest, q, room⟩)) :
    value (fuel + 1) ⟨.char '[' :: s, position, room + 1⟩ =
      .ok (.arr vs, ⟨rest, q, room + 1⟩) := by
  subst hinner
  rw [value]
  simp only [Cursor.skip, Cursor.withRoom, List.drop_succ_cons, List.drop_zero]
  rw [if_neg hhead, hitems]

theorem value_obj {s : List Point} {q : Nat}
    (hinner : Cursor.skipBlanks ⟨s, position + 1, room⟩ = c)
    (hhead : c.rest.head? ≠ some (.char '}'))
    (hmembers : members fuel [] c = .ok (ms, ⟨rest, q, room⟩)) :
    value (fuel + 1) ⟨.char '{' :: s, position, room + 1⟩ =
      .ok (.obj ms, ⟨rest, q, room + 1⟩) := by
  subst hinner
  rw [value]
  simp only [Cursor.skip, Cursor.withRoom, List.drop_succ_cons, List.drop_zero]
  rw [if_neg hhead, hmembers]

theorem items_last (hvalue : value fuel c = .ok (v, after))
    (hend : after.skipBlanks = ⟨.char ']' :: rest, position, room⟩) :
    items (fuel + 1) c = .ok ([v], ⟨rest, position + 1, room⟩) := by
  rw [items, hvalue]
  simp only [hend]
  rfl

theorem items_next {next : Cursor}
    (hvalue : value fuel c = .ok (v, ⟨.char ',' :: rest, position, room⟩))
    (hnext : Cursor.skipBlanks ⟨rest, position + 1, room⟩ = next)
    (hitems : items fuel next = .ok (vs, after)) : items (fuel + 1) c = .ok (v :: vs, after) := by
  subst hnext
  rw [items, hvalue]
  simp only [skipBlanks_comma, Cursor.skip, List.drop_succ_cons, List.drop_zero, hitems]
  rfl

theorem members_last {k : String} {s : List Point} {q : Nat} (hbare : Bare s)
    (hvalue : value fuel ⟨s, position + (stringText k).length + 2, room⟩ = .ok (v, after))
    (hend : after.skipBlanks = ⟨.char '}' :: rest, q, room⟩) :
    members (fuel + 1) seen
      ⟨(stringText k).map .char ++ .char ':' :: .char ' ' :: s, position, room⟩ =
      .ok (put k v seen, ⟨rest, q + 1, room⟩) := by
  obtain ⟨body, hbody, hname⟩ := string_stringText k position room (.char ':' :: .char ' ' :: s)
  rw [hbody, members]
  simp only [Cursor.skip, List.drop_succ_cons, List.drop_zero, hname, skipBlanks_colon,
    skipBlanks_space hbare, hvalue, hend]

theorem members_next {k : String} {s : List Point} {q : Nat} {next : Cursor} (hbare : Bare s)
    (hvalue : value fuel ⟨s, position + (stringText k).length + 2, room⟩ =
      .ok (v, ⟨.char ',' :: rest, q, room⟩))
    (hnext : Cursor.skipBlanks ⟨rest, q + 1, room⟩ = next)
    (hmembers : members fuel (put k v seen) next = .ok (ms, after)) :
    members (fuel + 1) seen
      ⟨(stringText k).map .char ++ .char ':' :: .char ' ' :: s, position, room⟩ =
      .ok (ms, after) := by
  obtain ⟨body, hbody, hname⟩ := string_stringText k position room (.char ':' :: .char ' ' :: s)
  rw [hbody, members]
  simp only [Cursor.skip, List.drop_succ_cons, List.drop_zero, hname, skipBlanks_colon,
    skipBlanks_space hbare, hvalue, skipBlanks_comma, hnext, hmembers]

theorem put_of_not_mem {k : Loose} (h : k ∉ seen.map (·.1)) : put k v seen = seen ++ [(k, v)] := by
  induction seen with
  | nil => rfl
  | cons m seen ih =>
    obtain ⟨l, w⟩ := m
    simp only [List.map_cons, List.mem_cons, not_or] at h
    rw [put, if_neg (Ne.symm h.1), ih h.2]
    rfl

/-! ## The whole value -/

/-- The text of a value does not begin with a blank or a closing bracket. -/
theorem exists_indentedText_eq (h : IsPlain room v) (level : Nat) : ∃ c cs,
    indentedText level v = c :: cs ∧ isJsonBlank c = false ∧ c ≠ ']' := by
  cases v with
  | null => exact ⟨'n', _, rfl, rfl, by decide⟩
  | bool b => cases b <;> exact ⟨_, _, rfl, rfl, by decide⟩
  | int i =>
    obtain ⟨c, cs, hcs, hc | rfl⟩ := exists_toString_eq i
    · refine ⟨c, cs, hcs, ?_, ne_of_isDigit hc rfl⟩
      simp [isJsonBlank, ne_of_isDigit hc (a := ' ') rfl, ne_of_isDigit hc (a := '\t') rfl,
        ne_of_isDigit hc (a := '\n') rfl, ne_of_isDigit hc (a := '\r') rfl]
    · exact ⟨'-', cs, hcs, rfl, by decide⟩
  | real d => exact absurd h (by simp [IsPlain])
  | str s => cases s <;> exact ⟨'"', _, rfl, rfl, by decide⟩
  | arr vs =>
    cases vs with
    | nil => exact ⟨'[', _, rfl, rfl, by decide⟩
    | cons v vs => exact ⟨'[', _, by rw [indentedText]; rfl, rfl, by decide⟩
  | obj ms =>
    cases ms with
    | nil => exact ⟨'{', _, rfl, rfl, by decide⟩
    | cons m ms => exact ⟨'{', _, by rw [indentedText]; rfl, rfl, by decide⟩

/-- All values of the given depth are read as they are written, wherever they stand. What is read of
    a text costs at most twice its length. -/
def AreRead (room : Nat) : Prop :=
  ∀ ⦃v : Json⦄ ⦃fuel position level : Nat⦄ ⦃rest : List Point⦄,
    IsPlain room v → 2 * (indentedText level v).length < fuel → Ends rest →
      value fuel ⟨(indentedText level v).map .char ++ rest, position, room⟩ =
        .ok (v, ⟨rest, position + (indentedText level v).length, room⟩)

theorem bare_indentedText (h : IsPlain room v) :
    Bare ((indentedText level v).map .char ++ rest) := by
  obtain ⟨c, cs, heq, hblank, -⟩ := exists_indentedText_eq h level
  rw [heq]
  simpa [Bare, Point.holds] using hblank

theorem indentedItems_cons (level : Nat) (v : Json) (vs : List Json) :
    indentedItems level (v :: vs) = indentedText level v ++
      if vs = [] then [] else ',' :: newLine level ++ indentedItems level vs := by
  cases vs <;> simp [indentedItems]

theorem bare_indentedItems (hne : vs ≠ []) (h : ∀ v ∈ vs, IsPlain room v) :
    Bare ((indentedItems level vs).map .char ++ rest) := by
  obtain ⟨v, vs, rfl⟩ := List.exists_cons_of_ne_nil hne
  rw [indentedItems_cons, List.map_append, List.append_assoc]
  exact bare_indentedText (h v List.mem_cons_self)

theorem bare_indentedMembers (hne : ms ≠ []) (h : ∀ m ∈ ms, m.1.whole?.isSome ∧ IsPlain room m.2) :
    Bare ((indentedMembers level ms).map .char ++ rest) := by
  obtain ⟨⟨k, v⟩, ms, rfl⟩ := List.exists_cons_of_ne_nil hne
  cases ms <;> cases k <;> rfl

theorem items_indentedItems {outer : Nat} (ih : AreRead room) (hne : vs ≠ [])
    (h : ∀ v ∈ vs, IsPlain room v) (hfuel : 2 * (indentedItems level vs).length + 1 < fuel) :
    items fuel ⟨(indentedItems level vs).map .char ++
        ((newLine outer).map .char ++ .char ']' :: rest), position, room⟩ =
      .ok (vs, ⟨rest, position + (indentedItems level vs).length + (newLine outer).length + 1,
        room⟩) := by
  induction vs generalizing fuel position with
  | nil => exact absurd rfl hne
  | cons v vs ihvs =>
    obtain ⟨fuel, rfl⟩ : ∃ n, fuel = n + 1 := ⟨fuel - 1, by omega⟩
    have hv := h v List.mem_cons_self
    have hvs : ∀ v ∈ vs, IsPlain room v := fun v hv => h v (List.mem_cons_of_mem _ hv)
    cases vs with
    | nil =>
      rw [indentedItems] at hfuel ⊢
      exact items_last (ih hv (by omega) ends_newLine) (skipBlanks_newLine rfl)
    | cons w vs =>
      have hw : w :: vs ≠ [] := by simp
      rw [indentedItems] at hfuel ⊢
      simp only [List.length_append, List.length_cons] at hfuel ⊢
      simp only [List.map_append, List.map_cons, List.append_assoc, List.cons_append]
      refine (items_next (ih hv (by omega) (.item _))
        (skipBlanks_newLine (bare_indentedItems hw hvs)) (ihvs hw hvs (by omega))).trans ?_
      exact ok_of_position (by omega)

theorem members_indentedMembers {outer : Nat} (ih : AreRead room) (hne : ms ≠ [])
    (h : ∀ m ∈ ms, m.1.whole?.isSome ∧ IsPlain room m.2) (hnames : ((seen ++ ms).map (·.1)).Nodup)
    (hfuel : 2 * (indentedMembers level ms).length + 1 < fuel) :
    members fuel seen ⟨(indentedMembers level ms).map .char ++
        ((newLine outer).map .char ++ .char '}' :: rest), position, room⟩ =
      .ok (seen ++ ms, ⟨rest, position + (indentedMembers level ms).length +
        (newLine outer).length + 1, room⟩) := by
  induction ms generalizing seen fuel position with
  | nil => exact absurd rfl hne
  | cons m ms ihms =>
    obtain ⟨fuel, rfl⟩ : ∃ n, fuel = n + 1 := ⟨fuel - 1, by omega⟩
    obtain ⟨k, v⟩ := m
    obtain ⟨hk, hv : IsPlain room v⟩ := h (k, v) List.mem_cons_self
    obtain ⟨k, rfl⟩ : ∃ name : String, k = name := by
      cases k with
      | whole name => exact ⟨name, rfl⟩
      | torn => simp [Loose.whole?] at hk
    have hms : ∀ m ∈ ms, m.1.whole?.isSome ∧ IsPlain room m.2 := fun m hm =>
      h m (List.mem_cons_of_mem _ hm)
    -- The name is none of those that were read before.
    have hput : put k v seen = seen ++ [(Loose.whole k, v)] := by
      refine put_of_not_mem fun hmem => ?_
      rw [List.map_append, List.nodup_append] at hnames
      exact hnames.2.2 _ hmem k List.mem_cons_self rfl
    cases ms with
    | nil =>
      rw [indentedMembers] at hfuel ⊢
      simp only [List.length_append, List.length_cons, List.map_append, List.map_cons,
        List.append_assoc, List.cons_append] at hfuel ⊢
      refine (members_last (bare_indentedText hv) (ih hv (by omega) ends_newLine)
        (skipBlanks_newLine rfl)).trans ?_
      rw [hput]
      exact ok_of_position (by omega)
    | cons m ms =>
      have hm : m :: ms ≠ [] := by simp
      rw [indentedMembers] at hfuel ⊢
      simp only [List.length_append, List.length_cons, List.map_append, List.map_cons,
        List.append_assoc, List.cons_append] at hfuel ⊢
      have hnames' : ((put k v seen ++ m :: ms).map (·.1)).Nodup := by
        rw [hput]
        simpa using hnames
      refine (members_next (bare_indentedText hv) (ih hv (by omega) (.item _))
        (skipBlanks_newLine (bare_indentedMembers hm hms))
        (ihms hm hms hnames' (by omega))).trans ?_
      rw [hput, List.append_assoc]
      exact ok_of_position (by omega)

theorem value_indentedText_arr (ih : AreRead room) (h : IsPlain (room + 1) (.arr vs))
    (hfuel : 2 * (indentedText level (.arr vs)).length < fuel) :
    value fuel ⟨(indentedText level (.arr vs)).map .char ++ rest, position, room + 1⟩ =
      .ok (.arr vs, ⟨rest, position + (indentedText level (.arr vs)).length, room + 1⟩) := by
  obtain ⟨fuel, rfl⟩ : ∃ n, fuel = n + 1 := ⟨fuel - 1, by omega⟩
  cases vs with
  | nil => rfl
  | cons v vs =>
    have hne : v :: vs ≠ [] := by simp
    rw [IsPlain] at h
    rw [indentedText] at hfuel ⊢
    simp only [List.length_append, List.length_cons, List.length_nil, List.map_append,
      List.map_cons, List.map_nil, List.append_assoc, List.cons_append, List.nil_append] at hfuel ⊢
    refine (value_arr (skipBlanks_newLine (bare_indentedItems hne h)) ?_
      (items_indentedItems ih hne h (by omega))).trans ?_
    · obtain ⟨c, cs, heq, -, hbracket⟩ :=
        exists_indentedText_eq (h v List.mem_cons_self) (level + 1)
      rw [indentedItems_cons, heq]
      simpa using hbracket
    · exact ok_of_position (by omega)

theorem value_indentedText_obj (ih : AreRead room) (h : IsPlain (room + 1) (.obj ms))
    (hfuel : 2 * (indentedText level (.obj ms)).length < fuel) :
    value fuel ⟨(indentedText level (.obj ms)).map .char ++ rest, position, room + 1⟩ =
      .ok (.obj ms, ⟨rest, position + (indentedText level (.obj ms)).length, room + 1⟩) := by
  obtain ⟨fuel, rfl⟩ : ∃ n, fuel = n + 1 := ⟨fuel - 1, by omega⟩
  cases ms with
  | nil => rfl
  | cons m ms =>
    have hne : m :: ms ≠ [] := by simp
    rw [IsPlain] at h
    obtain ⟨hnames, h⟩ := h
    rw [indentedText] at hfuel ⊢
    simp only [List.length_append, List.length_cons, List.length_nil, List.map_append,
      List.map_cons, List.map_nil, List.append_assoc, List.cons_append, List.nil_append] at hfuel ⊢
    refine (value_obj (skipBlanks_newLine (bare_indentedMembers hne h)) ?_
      (members_indentedMembers ih hne h (by simpa using hnames) (by omega))).trans ?_
    · obtain ⟨⟨k, v⟩, ms⟩ := m, ms
      cases ms <;> cases k <;> simp [indentedMembers, stringText]
    · exact ok_of_position (by omega)

theorem value_indentedText_int {i : Int} (h : IsShort i) (hrest : Ends rest) :
    value (fuel + 1) ⟨(indentedText level (.int i)).map .char ++ rest, position, room⟩ =
      .ok (.int i, ⟨rest, position + (indentedText level (.int i)).length, room⟩) := by
  have htext : indentedText level (.int i) = (toString i).toList := rfl
  rw [htext, value_scalar, scalar_toString h hrest]
  -- A number begins with a sign or a digit.
  obtain ⟨c, cs, hcs, hc⟩ := exists_toString_eq i
  simp only [hcs, List.map_cons, List.cons_append, List.head?_cons, ne_eq, Option.some.injEq,
    Point.char.injEq, List.forall_mem_cons]
  rcases hc with hc | rfl
  · exact ⟨ne_of_isDigit hc rfl, ne_of_isDigit hc rfl, ne_of_isDigit hc rfl, nofun⟩
  · exact ⟨by decide, by decide, by decide, nofun⟩

theorem value_indentedText_str (s : String) :
    value (fuel + 1) ⟨(indentedText level (.str s)).map .char ++ rest, position, room⟩ =
      .ok (.str s, ⟨rest, position + (indentedText level (.str s)).length, room⟩) := by
  have htext : indentedText level (.str s) = stringText s := rfl
  obtain ⟨body, hbody, hstring⟩ := string_stringText s position room rest
  rw [htext, hbody, value_quote, hstring]
  rfl

/-- A value that holds no other value is read as it is written. -/
theorem value_indentedText_scalar (harr : ∀ vs, v ≠ .arr vs) (hobj : ∀ ms, v ≠ .obj ms)
    (h : IsPlain room v) (hrest : Ends rest) :
    value (fuel + 1) ⟨(indentedText level v).map .char ++ rest, position, room⟩ =
      .ok (v, ⟨rest, position + (indentedText level v).length, room⟩) := by
  cases v with
  | null => rfl
  | bool b => cases b <;> rfl
  | int i =>
    rw [IsPlain] at h
    exact value_indentedText_int h hrest
  | real d => exact absurd h (by simp [IsPlain])
  | str s =>
    cases s with
    | whole s => exact value_indentedText_str s
    | torn ps => exact absurd h (by simp [IsPlain, Loose.whole?])
  | arr vs => exact absurd rfl (harr vs)
  | obj ms => exact absurd rfl (hobj ms)

theorem areRead (room : Nat) : AreRead room := by
  induction room with
  | zero =>
    intro v fuel position level rest h hfuel hrest
    obtain ⟨fuel, rfl⟩ : ∃ n, fuel = n + 1 := ⟨fuel - 1, by omega⟩
    exact value_indentedText_scalar (fun vs hv => by simp [hv, IsPlain] at h)
      (fun ms hv => by simp [hv, IsPlain] at h) h hrest
  | succ room ih =>
    intro v fuel position level rest h hfuel hrest
    cases v with
    | arr vs => exact value_indentedText_arr ih h hfuel
    | obj ms => exact value_indentedText_obj ih h hfuel
    | _ =>
      obtain ⟨fuel, rfl⟩ : ∃ n, fuel = n + 1 := ⟨fuel - 1, by omega⟩
      exact value_indentedText_scalar nofun nofun h hrest

/-- A value is read as it is written, with nothing around it. -/
theorem read_indented {depth : Nat} (h : IsPlain depth v) :
    read depth ((indented v).toList.map .char) = .ok v := by
  have hbare : Bare ((indentedText 0 v).map .char) := by
    have hnil : Bare ((indentedText 0 v).map .char ++ []) := bare_indentedText h
    rwa [List.append_nil] at hnil
  have hv : value (2 * ((indentedText 0 v).map Point.char).length + 2)
      ⟨(indentedText 0 v).map .char ++ [], 0, depth⟩ = _ := areRead depth h (by simp) .text
  rw [List.append_nil] at hv
  rw [indented, String.toList_ofList, read, skipBlanks_bare hbare, hv]
  simp only [skipBlanks_bare (show Bare [] from rfl), if_true]

end Mender.Json
