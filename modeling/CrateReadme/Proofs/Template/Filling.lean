import CrateReadme.Template.Render
import Mathlib.Data.List.Forall2

/-!
# Steps of filling in

What the pieces of a plain template do while escaping is off: filters on texts, comparisons of
texts, truth, the concatenation of texts, and the list that a template puts things into. Each is
one equation about a run from a state.
-/

namespace CrateReadme.Template

variable {state : State}

namespace Run

variable {α β : Type} {after : State} {value : α}

/-- A run goes on where the run before it ended. -/
theorem bind_of_ok {run : Run α} {next : α → Run β} (hrun : run state = .ok (value, after)) :
    (run >>= next) state = next value after := by
  change Except.bind (run state) _ = _
  rw [hrun]
  rfl

theorem get_eq (state : State) : (get : Run State) state = .ok (state, state) :=
  rfl

theorem modify_eq (change : State → State) (state : State) :
    (modify change : Run Unit) state = .ok ((), change state) :=
  rfl

/-- Runs one by one that leave the state as it is. -/
theorem mapM_of_forall₂ {change : α → Run β} {items : List α} {values : List β}
    (hitems : List.Forall₂ (fun item value => change item state = .ok (value, state)) items
      values) : items.mapM change state = .ok (values, state) := by
  induction hitems with
  | nil => rfl
  | cons hitem _ ih =>
      rw [List.mapM_cons, bind_of_ok hitem, bind_of_ok ih]
      rfl

theorem listItems_of_list {ref : Nat} {items : List Value}
    (hlist : state.objects[ref]? = some (.list items)) :
    listItems ref state = .ok (items, state) := by
  rw [listItems, bind_of_ok (get_eq state), hlist]
  rfl

end Run

/-! ### Filters -/

namespace Filter

theorem apply_of_plain {word : String} {action : Action} (hword : plain? word = some action)
    (value : Value) (arguments : Arguments) :
    apply word value arguments = action value arguments := by
  rw [apply, nestingLimit, applyWithin, hword]

theorem apply_trim (text chars : List Char) :
    apply "trim" (.text text) ⟨[.text chars], []⟩ state =
      .ok (.text (Text.trim (fun c => c ∈ chars) text), state) := by
  rw [apply_of_plain rfl]
  rfl

theorem apply_replace (hescapes : state.escapes = false) {value : Value} {text : List Char}
    (hshown : value.shown state = .ok (text, state)) (old new : List Char) :
    apply "replace" value ⟨[.text old, .text new], []⟩ state =
      .ok (.text (replaced old new (-1) text), state) := by
  have hbind : Arguments.bind ⟨[.text old, .text new], []⟩ 2 ["old", "new", "count"] state =
      .ok (⟨[("old", .text old), ("new", .text new)]⟩, state) := rfl
  rw [apply_of_plain rfl, replace, Run.bind_of_ok hbind, Run.bind_of_ok (Run.get_eq state),
    hescapes]
  simp only [Bool.false_eq_true, if_false]
  rw [Run.bind_of_ok hshown]
  rfl

def encoded (text : List Char) : List Char :=
  (Text.utf8 (String.ofList text)).flatMap fun byte =>
    let c := Char.ofNat byte.toNat
    if byte.toNat < 128 && Text.Percent.isPathChar c then [c] else Text.Percent.escape byte

theorem apply_urlencode (text : List Char) :
    apply "urlencode" (.text text) ⟨[], []⟩ state = .ok (.text (encoded text), state) := by
  have haddress : addressText false (.text text) state = .ok (encoded text, state) := by
    simp [addressText, encoded]
    rfl
  rw [apply_of_plain rfl]
  change (addressText false (.text text) >>= fun text => pure (Value.text text)) state = _
  rw [Run.bind_of_ok haddress]
  rfl

theorem mapM_shown (texts : List (List Char)) :
    (texts.map Value.text).mapM Value.shown state = .ok (texts, state) := by
  apply Run.mapM_of_forall₂
  rw [List.forall₂_map_left_iff, List.forall₂_same]
  exact fun _ _ => rfl

/-- Joining a list of texts puts the separator between them. -/
theorem apply_join (hescapes : state.escapes = false) {ref : Nat} {texts : List (List Char)}
    (hlist : state.objects[ref]? = some (.list (texts.map .text))) (separator : List Char) :
    apply "join" (.list ref) ⟨[.text separator], []⟩ state =
      .ok (.text (Text.joinWith separator texts), state) := by
  have hbind : Arguments.bind ⟨[.text separator], []⟩ 0 ["d", "attribute"] state =
      .ok (⟨[("d", .text separator)]⟩, state) := rfl
  have hitems : itemsOrMembers (.list ref) ⟨[("d", .text separator)]⟩ state =
      .ok (texts.map .text, state) := by
    change Value.items (.list ref) state = _
    rw [Value.items, Run.bind_of_ok (show Value.cursor (.list ref) state =
      .ok (.list ref 0, state) from rfl), Cursor.rest,
      Run.bind_of_ok (Run.listItems_of_list hlist)]
    rfl
  rw [apply_of_plain rfl, join, Run.bind_of_ok hbind, Run.bind_of_ok (Run.get_eq state), hescapes]
  simp only [Bool.false_eq_true, if_false]
  have hseparator : Value.shown (Bound.get ⟨[("d", .text separator)]⟩ "d" (.text [])) state =
      .ok (separator, state) := rfl
  rw [Run.bind_of_ok hseparator, Run.bind_of_ok hitems, Run.bind_of_ok (mapM_shown texts)]
  rfl

end Filter

/-! ### Values -/

namespace Value

theorem equal_text (text other : List Char) :
    equal (.text text) (.text other) state = .ok (text = other, state) := by
  rw [equal, nestingLimit, equalWithin]
  · rfl
  all_goals simp

theorem equal_none (other : List Char) : equal .none (.text other) state = .ok (false, state) := by
  rw [equal, nestingLimit, equalWithin]
  · rfl
  all_goals simp

theorem truth_list {ref : Nat} {items : List Value}
    (hlist : state.objects[ref]? = some (.list items)) :
    truth (.list ref) state = .ok (!items.isEmpty, state) := by
  rw [truth, Run.bind_of_ok (Run.listItems_of_list hlist)]
  rfl

end Value

/-! ### Texts -/

theorem joinedTexts_text (texts : List (List Char)) :
    joinedTexts false (texts.map .text) state = .ok (.text texts.flatten, state) := by
  rw [joinedTexts]
  simp only [Bool.false_and, Bool.false_eq_true, if_false, pure_bind]
  rw [Run.bind_of_ok (Filter.mapM_shown texts)]
  rfl

theorem callValue_append {ref : Nat} {items : List Value}
    (hlist : state.objects[ref]? = some (.list items)) (item : Value) :
    Method.callValue (.method (.list ref) "append") ⟨[item], []⟩ state =
      .ok (.none, { state with
        objects := state.objects.setIfInBounds ref (.list (items ++ [item])) }) := by
  change Method.onList ref "append" ⟨[item], []⟩ state = _
  rw [Method.onList, Run.bind_of_ok (Run.listItems_of_list hlist)]
  rfl

end CrateReadme.Template
