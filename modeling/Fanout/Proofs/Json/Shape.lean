import Fanout.Json.Shape
import Fanout.Proofs.Fallible
import Fanout.Proofs.Json.Cursor

/-!
# Values of a known shape are read back

* `Reads shape cs a` : the text `cs` is read as `a` wherever it stands;
* `reads_text`, `reads_null`, `Reads.optional`, `Reads.list`, `Reads.record1`, `Reads.record2` : the texts of
  the shapes;
* `Reads.ofText` : so it is where it is the whole text.
-/

namespace Fanout.Json
open Cursor Shape

/-- A text begins like a value. -/
def Starts (cs : List Char) : Prop :=
  ∃ x tail, cs = x :: tail ∧ x.toNat < 0x80 ∧ isBlank x = false ∧ x ≠ ']'

/-- The text `cs` is read as `a` wherever it stands. -/
structure Reads {α : Type} (shape : Shape α) (cs : List Char) (a : α) : Prop where
  starts : Starts cs
  run : ∀ ⦃c : Cursor⦄ ⦃rest : List UInt8⦄, c.Faces cs rest → ∃ c', shape c = .ok (a, c') ∧ c'.rest = rest

section
variable {α : Type} {shape : Shape α} {c : Cursor} {cs : List Char} {rest : List UInt8} {a : α}

theorem Starts.append (h : Starts cs) (ds : List Char) : Starts (cs ++ ds) := by
  obtain ⟨x, tail, rfl, h⟩ := h
  exact ⟨x, tail ++ ds, List.cons_append, h⟩

theorem Starts.skipBlank (h : Starts cs) (hc : c.Faces cs rest) : c.skipBlank = c := by
  obtain ⟨x, tail, rfl, hx, hblank, -⟩ := h
  exact skipBlank_eq (hc.peek? hx) hblank

theorem Reads.ofText (h : Reads shape cs a) : Shape.ofText shape (String.ofList cs) = .ok a := by
  have hstart : (Cursor.start (String.ofList cs)).Faces cs [] := by
    rw [Faces, Cursor.start, String.toList_ofList, List.append_nil]
  obtain ⟨c', hread, hc'⟩ := h.run hstart
  have hblank : c'.skipBlank = c' := by
    rw [Cursor.skipBlank, span, hc']
    rfl
  have hend : c'.peek? = none := by
    rw [Cursor.peek?, hc']
    rfl
  rw [Shape.ofText, hread]
  show (if c'.skipBlank.peek?.isSome then _ else _) = _
  rw [hblank, hend]
  rfl

/-! ## Texts and values that may be null -/

theorem starts_quote (s : String) : Starts (quote s) := ⟨'"', _, rfl, by decide, by decide, by decide⟩

theorem reads_text (s : String) : Reads Shape.text (quote s) s := by
  refine ⟨starts_quote s, fun c rest hc => ?_⟩
  unfold Shape.text
  dsimp only
  rw [(starts_quote s).skipBlank hc]
  rw [quote] at hc
  rw [hc.peek? (by decide)]
  exact readText_quoted s (hc.advance (by decide))

theorem readName_faces {name : List Char} (hname : ∀ x ∈ name, x.toNat < 0x80) (hc : c.Faces name rest) :
    ∃ c', c.readName name = .ok c' ∧ c'.rest = rest := by
  induction name generalizing c with
  | nil => exact ⟨c, rfl, hc⟩
  | cons x name ih =>
    obtain ⟨hx, hname⟩ := List.forall_mem_cons.1 hname
    obtain ⟨c', hread, hc'⟩ := ih hname (hc.advance hx)
    refine ⟨c', ?_, hc'⟩
    rw [readName, hc.peek? hx]
    dsimp only
    rw [if_pos (beq_self_eq_true x), hread]

theorem reads_null (shape : Shape α) : Reads (Shape.optional shape) ['n', 'u', 'l', 'l'] none := by
  have hstarts : Starts ['n', 'u', 'l', 'l'] := ⟨'n', _, rfl, by decide, by decide, by decide⟩
  have hname : ∀ x ∈ ['u', 'l', 'l'], x.toNat < 0x80 := by
    intro x hx
    simp only [List.mem_cons, List.not_mem_nil, or_false] at hx
    rcases hx with rfl | rfl | rfl <;> decide
  refine ⟨hstarts, fun c rest hc => ?_⟩
  obtain ⟨c', hread, hc'⟩ := readName_faces hname (hc.advance (by decide))
  refine ⟨c', ?_, hc'⟩
  unfold Shape.optional
  dsimp only
  rw [hstarts.skipBlank hc, hc.peek? (by decide)]
  show (c.advance.readName ['u', 'l', 'l'] >>= fun c => Except.ok (none, c)) = _
  rw [hread, ok_bind]

theorem Reads.optional (h : Reads shape cs a) (hn : cs.head? ≠ some 'n') :
    Reads (Shape.optional shape) cs (some a) := by
  refine ⟨h.starts, fun c rest hc => ?_⟩
  obtain ⟨c', hread, hc'⟩ := h.run hc
  refine ⟨c', ?_, hc'⟩
  unfold Shape.optional
  dsimp only
  rw [h.starts.skipBlank hc]
  obtain ⟨x, tail, rfl, hx, -⟩ := h.starts
  rw [hc.peek? hx]
  split
  · next heq => exact absurd heq hn
  · rw [hread, ok_bind]

/-! ## Lists -/

theorem nextItem?_end (first : Bool) (hc : c.Faces [']'] rest) : nextItem? first c = .ok (none, c) := by
  have hpeek := hc.peek? (by decide)
  unfold nextItem?
  dsimp only
  rw [skipBlank_eq hpeek (by decide), hpeek]
  rfl

theorem nextItem?_first (hcs : Starts cs) (hc : c.Faces cs rest) : nextItem? true c = .ok (some c, c) := by
  unfold nextItem?
  dsimp only
  rw [hcs.skipBlank hc]
  obtain ⟨x, tail, rfl, hx, -, hend⟩ := hcs
  rw [hc.peek? hx]
  split
  · next heq => cases heq
  · next heq => exact absurd (Option.some.inj heq) hend
  · rfl

theorem nextItem?_comma (hcs : Starts cs) (hc : c.Faces (',' :: cs) rest) :
    nextItem? false c = .ok (some c.advance, c.advance) := by
  have hpeek := hc.peek? (by decide)
  have hbehind := hc.advance (by decide)
  unfold nextItem?
  dsimp only
  rw [skipBlank_eq hpeek (by decide), hpeek]
  split
  · next heq => cases heq
  · next heq => cases heq
  · next heq =>
    cases heq
    rw [if_neg (by decide), if_pos (by decide), hcs.skipBlank hbehind]
    obtain ⟨x, tail, rfl, hx, -, hend⟩ := hcs
    rw [hbehind.peek? hx]
    split
    · next heq => cases heq
    · next heq => exact absurd (Option.some.inj heq) hend
    · rfl

theorem compactItems_cons (v : Json) (vs : List Json) :
    compactItems (v :: vs) = compactChars v ++ vs.flatMap fun w => ',' :: compactChars w := by
  induction vs generalizing v with
  | nil => rw [compactItems, List.flatMap_nil, List.append_nil]
  | cons w vs ih => rw [compactItems, ih, List.flatMap_cons, List.cons_append]

section
variable {item : Shape α} {write : α → Json}

theorem itemsFrom_written {as : List α} (h : ∀ a ∈ as, Reads item (compactChars (write a)) a) {fuel : Nat}
    (hfuel : as.length < fuel)
    (hc : c.Faces (as.flatMap fun a => ',' :: compactChars (write a)) (byte ']' :: rest)) :
    ∃ c', itemsFrom item fuel false c = .ok (as, c') ∧ c'.rest = byte ']' :: rest := by
  induction as generalizing c fuel with
  | nil =>
    obtain ⟨fuel, rfl⟩ : ∃ n, fuel = n + 1 := ⟨fuel - 1, by simp at hfuel; omega⟩
    have hend : c.Faces [']'] rest := hc
    refine ⟨c, ?_, hc⟩
    rw [itemsFrom, nextItem?_end false hend]
    rfl
  | cons a as ih =>
    obtain ⟨fuel, rfl⟩ : ∃ n, fuel = n + 1 := ⟨fuel - 1, by simp at hfuel; omega⟩
    obtain ⟨ha, has⟩ := List.forall_mem_cons.1 h
    rw [List.flatMap_cons, faces_append] at hc
    obtain ⟨c₁, hitem, hc₁⟩ := ha.run (hc.advance (by decide))
    obtain ⟨c₂, hitems, hc₂⟩ := ih has (by simpa using hfuel) hc₁
    refine ⟨c₂, ?_, hc₂⟩
    rw [itemsFrom, nextItem?_comma ha.starts hc, ok_bind]
    dsimp only
    rw [hitem, ok_bind]
    dsimp only
    rw [hitems, ok_bind]

theorem length_le_encode (cs : List Char) : cs.length ≤ (Utf8.encode cs).length := by
  induction cs with
  | nil => exact Nat.le_refl 0
  | cons x cs ih =>
    obtain ⟨b, bs, hbytes, -⟩ := Utf8.next_encodeChar x
    have hencode : Utf8.encode (x :: cs) = b :: (bs ++ Utf8.encode cs) := by
      rw [Utf8.encode, List.flatMap_cons, hbytes, List.cons_append]
      rfl
    rw [hencode, List.length_cons, List.length_cons, List.length_append]
    omega

theorem length_le_flatMap (as : List α) :
    as.length ≤ (as.flatMap fun a => ',' :: compactChars (write a)).length := by
  induction as with
  | nil => exact Nat.le_refl 0
  | cons a as ih =>
    rw [List.flatMap_cons, List.length_append, List.length_cons, List.length_cons]
    omega

theorem itemsFrom_first {as : List α} (h : ∀ a ∈ as, Reads item (compactChars (write a)) a)
    (hc : c.Faces (compactItems (as.map write)) (byte ']' :: rest)) :
    ∃ c', itemsFrom item (c.rest.length + 1) true c = .ok (as, c') ∧ c'.rest = byte ']' :: rest := by
  cases as with
  | nil =>
    have hend : c.Faces [']'] rest := hc
    refine ⟨c, ?_, hc⟩
    rw [itemsFrom, nextItem?_end true hend]
    rfl
  | cons a as =>
    obtain ⟨ha, has⟩ := List.forall_mem_cons.1 h
    rw [List.map_cons, compactItems_cons, List.flatMap_map] at hc
    have hfuel : as.length < c.rest.length := by
      have hitems : as.length ≤ (Utf8.encode (as.flatMap fun a => ',' :: compactChars (write a))).length :=
        Nat.le_trans (length_le_flatMap as) (length_le_encode _)
      rw [hc, encode_append, List.length_append, List.length_append, List.length_cons]
      omega
    have hfirst := nextItem?_first (ha.starts.append _) hc
    rw [faces_append] at hc
    obtain ⟨c₁, hitem, hc₁⟩ := ha.run hc
    obtain ⟨c₂, hitems, hc₂⟩ := itemsFrom_written has hfuel hc₁
    refine ⟨c₂, ?_, hc₂⟩
    rw [itemsFrom, hfirst, ok_bind]
    dsimp only
    rw [hitem, ok_bind]
    dsimp only
    rw [hitems, ok_bind]

theorem passListEnd_faces (hc : c.Faces [']'] rest) : passListEnd c = .ok c.advance := by
  have hpeek := hc.peek? (by decide)
  unfold passListEnd
  dsimp only
  rw [skipBlank_eq hpeek (by decide), hpeek]
  rfl

theorem Reads.list {as : List α} (h : ∀ a ∈ as, Reads item (compactChars (write a)) a) :
    Reads (Shape.list item) (compactChars (.array (as.map write))) as := by
  have hstarts : Starts (compactChars (.array (as.map write))) :=
    ⟨'[', _, by rw [compactChars], by decide, by decide, by decide⟩
  refine ⟨hstarts, fun c rest hc => ?_⟩
  have hblank := hstarts.skipBlank hc
  rw [compactChars] at hc
  have hinside := hc.advance (by decide)
  rw [faces_append] at hinside
  obtain ⟨c', hitems, hc'⟩ := itemsFrom_first h hinside
  have hend : c'.Faces [']'] rest := hc'
  refine ⟨c'.advance, ?_, hend.advance (by decide)⟩
  unfold Shape.list
  dsimp only
  rw [hblank, hc.peek? (by decide)]
  show (itemsFrom item (c.advance.rest.length + 1) true c.advance >>= fun p =>
    passListEnd p.2 >>= fun c => .ok (p.1, c)) = _
  rw [hitems, ok_bind, passListEnd_faces hend, ok_bind]

end

/-! ## Records -/

theorem nextKey?_first (hc : c.Faces ('"' :: cs) rest) : nextKey? true c = .ok (some c.advance, c) := by
  have hpeek := hc.peek? (by decide)
  unfold nextKey?
  dsimp only
  rw [skipBlank_eq hpeek (by decide), hpeek]
  rfl

theorem nextKey?_comma (hc : c.Faces (',' :: '"' :: cs) rest) :
    nextKey? false c = .ok (some c.advance.advance, c.advance) := by
  have hpeek := hc.peek? (by decide)
  have hquote := (hc.advance (by decide)).peek? (by decide)
  unfold nextKey?
  dsimp only
  rw [skipBlank_eq hpeek (by decide), hpeek]
  split
  · next heq => cases heq
  · next heq => cases heq
  · next heq =>
    cases heq
    rw [if_neg (by decide), if_pos (by decide), skipBlank_eq hquote (by decide), hquote]
    rfl

theorem nextKey?_end (first : Bool) (hc : c.Faces ['}'] rest) : nextKey? first c = .ok (none, c) := by
  have hpeek := hc.peek? (by decide)
  unfold nextKey?
  dsimp only
  rw [skipBlank_eq hpeek (by decide), hpeek]
  rfl

theorem passColon_faces (hc : c.Faces (':' :: cs) rest) : c.passColon = .ok c.advance := by
  have hpeek := hc.peek? (by decide)
  unfold passColon
  dsimp only
  rw [skipBlank_eq hpeek (by decide), hpeek]
  rfl

/-- What stands before a key: a comma, unless the key is the first one. -/
def separator (first : Bool) : List Char := if first then [] else [',']

theorem nextKey?_quote (first : Bool) (key : String) (hc : c.Faces (separator first ++ (quote key ++ cs)) rest) :
    ∃ c₁ c₂, nextKey? first c = .ok (some c₁, c₂) ∧
      c₁.Faces (key.toList.flatMap escape ++ ['"']) (Utf8.encode cs ++ rest) := by
  rw [quote, List.cons_append] at hc
  cases first with
  | true => exact ⟨_, _, nextKey?_first hc, faces_append.1 (hc.advance (by decide))⟩
  | false =>
    exact ⟨_, _, nextKey?_comma hc, faces_append.1 ((hc.advance (by decide)).advance (by decide))⟩

section
variable {σ : Type} {member : String → σ → Member σ} {s s' : σ} {fuel : Nat} (first : Bool)

/-- The value of a member is read onto the record, and the object goes on behind it. -/
theorem membersFrom_member {key : String} {read : Shape σ} (hmember : member key s = .value read)
    (hread : ∀ ⦃c : Cursor⦄, c.Faces cs rest → ∃ c', read c = .ok (s', c') ∧ c'.rest = rest)
    (hc : c.Faces (separator first ++ (quote key ++ ':' :: cs)) rest) :
    ∃ c', membersFrom member (fuel + 1) first s c = membersFrom member fuel false s' c' ∧ c'.rest = rest := by
  obtain ⟨c₁, c₂, hnext, hkey⟩ := nextKey?_quote first key hc
  obtain ⟨c₃, htext, hc₃⟩ := readText_quoted key hkey
  have hcolon : c₃.Faces (':' :: cs) rest := hc₃
  obtain ⟨c₄, hvalue, hc₄⟩ := hread (hcolon.advance (by decide))
  refine ⟨c₄, ?_, hc₄⟩
  rw [membersFrom, hnext, ok_bind]
  dsimp only
  rw [htext, ok_bind]
  dsimp only
  rw [hmember]
  dsimp only
  rw [passColon_faces hcolon, ok_bind, hvalue, ok_bind]

theorem membersFrom_end (hc : c.Faces ['}'] rest) :
    membersFrom member (fuel + 1) first s c = .ok (s, c) := by
  rw [membersFrom, nextKey?_end first hc]
  rfl

end

/-- The value of a field is put into its place, where that is empty. -/
theorem Reads.place {σ : Type} {f : Field α} (h : Reads f.shape cs a) (put : α → σ) (rest : List UInt8) :
    ∃ read, Shape.place f none put = .value read ∧
      ∀ ⦃c : Cursor⦄, c.Faces cs rest → ∃ c', read c = .ok (put a, c') ∧ c'.rest = rest := by
  refine ⟨_, rfl, fun c hc => ?_⟩
  obtain ⟨c', hvalue, hc'⟩ := h.run hc
  exact ⟨c', by rw [hvalue]; rfl, hc'⟩

theorem length_le_compactMembers : ∀ members, members.length ≤ (compactMembers members).length
  | [] => Nat.zero_le _
  | [(k, v)] => by simp [compactMembers, quote]
  | (k, v) :: m :: rest => by
    have ih := length_le_compactMembers (m :: rest)
    simp only [compactMembers, quote, List.length_append, List.length_cons] at ih ⊢
    omega

/-- An object is read where its members are read onto a record that is complete. -/
theorem reads_object {σ : Type} {shape : Shape α} {member : String → σ → Member σ} {start s : σ}
    {finish : σ → Except String α} {members : List (String × Json)}
    (hshape : ∀ ⦃c : Cursor⦄, c.skipBlank = c → c.peek? = some '{' →
      shape c = Shape.object member start finish c)
    (hmembers : ∀ ⦃c : Cursor⦄ ⦃rest : List UInt8⦄ (fuel : Nat), members.length ≤ fuel →
      c.Faces (compactMembers members) (byte '}' :: rest) →
      ∃ c', membersFrom member (fuel + 1) true start c = .ok (s, c') ∧ c'.rest = byte '}' :: rest)
    (hfinish : finish s = .ok a) : Reads shape (compactChars (.object members)) a := by
  have hstarts : Starts (compactChars (.object members)) :=
    ⟨'{', _, by rw [compactChars], by decide, by decide, by decide⟩
  refine ⟨hstarts, fun c rest hc => ?_⟩
  have hblank := hstarts.skipBlank hc
  rw [compactChars] at hc
  have hinside := hc.advance (by decide)
  rw [faces_append] at hinside
  have hfuel : members.length ≤ c.advance.rest.length := by
    have hchars := Nat.le_trans (length_le_compactMembers members) (length_le_encode _)
    rw [hinside, List.length_append]
    omega
  obtain ⟨c', hread, hc'⟩ := hmembers _ hfuel hinside
  have hend : c'.Faces ['}'] rest := hc'
  refine ⟨c'.advance, ?_, hend.advance (by decide)⟩
  rw [hshape hblank (hc.peek? (by decide)), Shape.object]
  dsimp only
  rw [hread, ok_bind]
  dsimp only
  rw [hfinish]

/-- What a member of an object is to a record with one field. -/
def member1 (f : Field α) (key : String) (s : Option α) : Member (Option α) :=
  if key == f.key then place f s some else .unknown

theorem record1_eq (name : String) (f : Field α) (hblank : c.skipBlank = c) (hpeek : c.peek? = some '{') :
    Shape.record1 name f c = Shape.object (member1 f) none (given f) c := by
  unfold Shape.record1
  dsimp only
  rw [hblank, hpeek]
  rfl

theorem Reads.record1 {f : Field α} {v : Json} (name : String) (h : Reads f.shape (compactChars v) a) :
    Reads (Shape.record1 name f) (compactChars (.object [(f.key, v)])) a := by
  refine reads_object (fun c => record1_eq name f) (fun c rest fuel hfuel hc => ?_) (s := some a) rfl
  obtain ⟨fuel, rfl⟩ : ∃ n, fuel = n + 1 := ⟨fuel - 1, by simp at hfuel; omega⟩
  obtain ⟨read, hplace, hread⟩ := h.place some (byte '}' :: rest)
  have hmember : member1 f f.key none = .value read := by
    rw [member1, if_pos (beq_self_eq_true f.key), hplace]
  rw [compactMembers] at hc
  obtain ⟨c', heq, hc'⟩ := membersFrom_member true hmember hread hc
  have hend : c'.Faces ['}'] rest := hc'
  exact ⟨c', by rw [heq, membersFrom_end false hend], hc'⟩

/-- What a member of an object is to a record with two fields. -/
def member2 {β : Type} (f : Field α) (g : Field β) (key : String) (s : Option α × Option β) :
    Member (Option α × Option β) :=
  if key == f.key then place f s.1 fun a => (some a, s.2)
  else if key == g.key then place g s.2 fun b => (s.1, some b)
  else .unknown

theorem record2_eq {β : Type} (name : String) (f : Field α) (g : Field β) (hblank : c.skipBlank = c)
    (hpeek : c.peek? = some '{') :
    Shape.record2 name f g c =
      Shape.object (member2 f g) (none, none) (fun s => do .ok (← given f s.1, ← given g s.2)) c := by
  unfold Shape.record2
  dsimp only
  rw [hblank, hpeek]
  rfl

theorem Reads.record2 {β : Type} {f : Field α} {g : Field β} {b : β} {v w : Json} (name : String)
    (hne : g.key ≠ f.key) (hf : Reads f.shape (compactChars v) a) (hg : Reads g.shape (compactChars w) b) :
    Reads (Shape.record2 name f g) (compactChars (.object [(f.key, v), (g.key, w)])) (a, b) := by
  refine reads_object (fun c => record2_eq name f g) (fun c rest fuel hfuel hc => ?_) (s := (some a, some b)) rfl
  obtain ⟨fuel, rfl⟩ : ∃ n, fuel = n + 2 := ⟨fuel - 2, by simp at hfuel; omega⟩
  rw [compactMembers, compactMembers, ← List.cons_append, ← List.append_assoc, faces_append] at hc
  obtain ⟨read, hplace, hread⟩ := hf.place (fun a => (some a, (none : Option β)))
    (Utf8.encode (',' :: (quote g.key ++ ':' :: compactChars w)) ++ byte '}' :: rest)
  have hmember : member2 f g f.key (none, none) = .value read := by
    rw [member2, if_pos (beq_self_eq_true f.key), hplace]
  obtain ⟨c₁, heq₁, hc₁⟩ := membersFrom_member true hmember hread hc
  obtain ⟨read', hplace', hread'⟩ := hg.place (fun b => (some a, some b)) (byte '}' :: rest)
  have hmember' : member2 f g g.key (some a, none) = .value read' := by
    rw [member2, if_neg (by simpa using hne), if_pos (beq_self_eq_true g.key), hplace']
  obtain ⟨c₂, heq₂, hc₂⟩ := membersFrom_member false hmember' hread' hc₁
  have hend : c₂.Faces ['}'] rest := hc₂
  exact ⟨c₂, by rw [heq₁, heq₂, membersFrom_end false hend], hc₂⟩

end

end Fanout.Json
