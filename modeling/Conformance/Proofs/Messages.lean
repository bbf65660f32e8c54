import Conformance.Proofs.Faults
import Conformance.Proofs.Writing
/-!
# Messages of errors

The error of a document that does not compile may show a part of the document, or of its definitions. Whatever stands
in a value that can be written can be displayed. So the error has a message if both are read from files.
-/

namespace Conformance

/-! ## Parts of values that can be written -/

namespace Value

theorem Writable.item {s : Sequence} {items : List Value} (h : (Value.arr s items).Writable) {v : Value}
    (hv : v ∈ items) : v.Writable := by
  cases h with
  | arr _ hitems => exact hitems v hv

theorem Writable.entry {entries : List (String × Value)} (h : (Value.obj entries).Writable) {e : String × Value}
    (he : e ∈ entries) : e.2.Writable := by
  cases h with
  | obj hentries => exact hentries e he

theorem Writable.lookup {entries : List (String × Value)} (h : (Value.obj entries).Writable) {key : String} {v : Value}
    (hl : entries.lookup key = some v) : v.Writable :=
  h.entry (Entries.mem_of_lookup hl)

theorem Writable.part {deep : Bool} {node part : Value} (h : node.Writable) (hp : Part deep node part) :
    part.Writable := by
  rcases hp with hb | ⟨_, hd⟩
  · cases hb with
    | item hmem => exact h.item hmem
    | keyword _ hl hmem => exact (h.lookup hl).item hmem
  · cases hd with
    | property hl hmem => exact (h.lookup hl).entry hmem
    | items hl _ => exact h.lookup hl
    | position hl hmem => exact (h.lookup hl).item hmem

theorem Writable.inside {deep : Bool} {node inner : Value} (h : node.Writable)
    (hi : Relation.ReflTransGen (Part deep) node inner) : inner.Writable := by
  induction hi with
  | refl => exact h
  | tail _ hp ih => exact ih.part hp

/-! ## Displaying them -/

theorem displayItems_isSome {vs : List Value} (h : ∀ v ∈ vs, v.display.isSome) : (displayItems vs).isSome := by
  induction vs with
  | nil => rfl
  | cons v vs ih =>
    obtain ⟨hv, hvs⟩ := List.forall_mem_cons.1 h
    obtain ⟨first, hfirst⟩ := Option.isSome_iff_exists.1 hv
    obtain ⟨others, hothers⟩ := Option.isSome_iff_exists.1 (ih hvs)
    rw [displayItems, hfirst, hothers]
    rfl

theorem displayEntries_isSome {entries : List (String × Value)} (h : ∀ e ∈ entries, e.2.display.isSome) :
    (displayEntries entries).isSome := by
  induction entries with
  | nil => rfl
  | cons e entries ih =>
    obtain ⟨k, v⟩ := e
    obtain ⟨hv, hentries⟩ := List.forall_mem_cons.1 h
    obtain ⟨first, hfirst⟩ := Option.isSome_iff_exists.1 hv
    obtain ⟨others, hothers⟩ := Option.isSome_iff_exists.1 (ih hentries)
    rw [displayEntries, hfirst, hothers]
    rfl

theorem Writable.display {v : Value} (h : v.Writable) : v.display.isSome := by
  induction h with
  | null => rfl
  | bool _ => rfl
  | int h => rw [Value.display, displayNumber, if_pos h]; rfl
  | float _ => rfl
  | str _ => rfl
  | arr _ _ ih =>
    obtain ⟨shown, hshown⟩ := Option.isSome_iff_exists.1 (displayItems_isSome ih)
    rw [Value.display, hshown]
    rfl
  | obj _ ih =>
    obtain ⟨shown, hshown⟩ := Option.isSome_iff_exists.1 (displayEntries_isSome ih)
    rw [Value.display, hshown]
    rfl

end Value

/-! ## Errors of values that can be written -/

/-- The demand is made by a value that can be written. -/
def Demand.Writable : Demand → Prop
  | .reference ref => ref.Writable
  | .type spec => spec.Writable

def SchemaError.HasMessage (e : SchemaError) : Prop := ∃ message, e.message? = some message

theorem Value.Writable.demands {node : Value} (h : node.Writable) {d : Demand}
    (hd : d ∈ (Schema.ofValue node).demands true) : d.Writable := by
  obtain ⟨inner, hi, ha⟩ := Schema.mem_demands_iff.1 hd
  cases ha with
  | reference hl => exact (h.inside hi).lookup hl
  | type hl => exact (h.inside hi).lookup hl

theorem Validator.ofTypeName_hasMessage {spec : Value} {e : SchemaError} (hs : spec.Writable)
    (h : ofTypeName spec = .error e) : e.HasMessage := by
  obtain ⟨rfl, _⟩ := ofTypeName_error h
  obtain ⟨shown, hshown⟩ := Option.isSome_iff_exists.1 hs.display
  rw [SchemaError.HasMessage, SchemaError.message?, SchemaError.detail?, hshown]
  exact ⟨_, rfl⟩

theorem Validator.ofType_hasMessage {spec : Value} {e : SchemaError} (hs : spec.Writable)
    (h : ofType spec = .error e) : e.HasMessage := by
  cases spec with
  | arr s names =>
    obtain ⟨name, hn, he⟩ := mapM_error (except_map_error h)
    exact ofTypeName_hasMessage (hs.item hn) he
  | _ => exact ofTypeName_hasMessage hs h

/-- The only part of an error that may fail to be displayed is that of an unknown type. -/
theorem Reference.ofValue_hasMessage {r : Value} {e : SchemaError} (h : ofValue r = .error e) : e.HasMessage := by
  unfold ofValue at h
  split at h
  · split at h
    · cases h
    · cases h
      exact ⟨_, rfl⟩
  · cases h
    exact ⟨_, rfl⟩

namespace Scope

variable {scope : Scope}

theorem find_hasMessage {ref : Reference} {e : SchemaError} (h : scope.find ref = .error e) : e.HasMessage := by
  unfold find at h
  split at h
  · cases h
    exact ⟨_, rfl⟩
  · split at h
    · cases h
    · cases h
      exact ⟨_, rfl⟩

theorem lookUp_hasMessage {r : Value} {e : SchemaError} (h : scope.lookUp r = .error e) : e.HasMessage := by
  rcases except_bind_error.1 h with h | ⟨ref, _, h⟩
  · exact Reference.ofValue_hasMessage h
  rcases except_bind_error.1 h with h | ⟨_, _, h⟩
  · exact find_hasMessage h
  · cases h

/-- The definitions of the scope can be written. -/
def Writable (scope : Scope) : Prop := ∀ table, scope.definitions = some table → (Value.obj table).Writable

theorem follows_writable (hs : scope.Writable) :
    scope.Follows Demand.Writable SchemaError.HasMessage fun _ => True where
  type := Validator.ofType_hasMessage
  reference _ := lookUp_hasMessage
  definition _ hl := by
    obtain ⟨_, _, _, table, htable, htarget⟩ := lookUp_ok.1 hl
    exact ⟨trivial, fun _ => ((hs table htable).lookup htarget).demands⟩

end Scope

theorem writable_merge {base more : Definitions} (hb : (Value.obj base).Writable) (hm : (Value.obj more).Writable) :
    (Value.obj (Entries.merge base more)).Writable := by
  refine .obj fun e he => ?_
  rcases Entries.mem_merge he with he | he
  · exact hb.entry he
  · exact hm.entry he

theorem writable_effectiveDefinitions {document definitions : Value} (hd : document.Writable)
    (hn : definitions.Writable) {table : Definitions} (h : effectiveDefinitions document definitions = some table) :
    (Value.obj table).Writable := by
  unfold effectiveDefinitions at h
  dsimp only at h
  split at h
  · next hl =>
    split at hl
    · cases h
      exact writable_merge (hd.lookup hl) hn
    · cases hl
  · cases h
    exact writable_merge (.obj (List.forall_mem_nil _)) hn
  · next hl _ =>
    split at hl
    · cases h
      exact hd.lookup hl
    · cases hl
  · cases h

/-- What can be written compiles, or has an error with a message. -/
theorem compileDocument_hasMessage {id : Nat} {document definitions : Value} {before after : List Mark}
    {e : SchemaError} (hd : document.Writable) (hn : definitions.Writable)
    (h : (compileDocument id document definitions).run before = (.error e, after)) : e.HasMessage := by
  have hscope : Scope.Writable ⟨id, effectiveDefinitions document definitions⟩ :=
    fun _ => writable_effectiveDefinitions hd hn
  obtain ⟨r, _, _, hrun, _, he, _⟩ :=
    Scope.run_track (Scope.follows_writable hscope) (fun _ => hd.demands) (Scope.size _) before
  have hrun : (compileDocument id document definitions).run before = _ := hrun
  rw [h] at hrun
  cases hrun
  exact he e rfl

end Conformance
