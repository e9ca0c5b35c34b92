import SchemaPages.Json.Reader
import SchemaPages.Proofs.Json.Tokens

/-!
Reading a printed value. The tokens of a value take the machine from where it waits for the value
to where the value has been put, as long as the containers do not nest too deep. What is read is
the value with the members of its objects in order.
-/

namespace SchemaPages.Json

/-- The tokens take the machine from one state to another. -/
def Reaches (state : State) (ts : List Token) (last : State) : Prop :=
  ∀ ls : List Lexeme, ls.map Lexeme.token = ts → ls.foldlM State.step state = .ok last

namespace Reaches

variable {state next last : State} {ts us : List Token} {t : Token}

theorem nil : Reaches state [] state := by
  intro ls hls
  rw [List.map_eq_nil_iff.1 hls]
  rfl

theorem cons (h : ∀ start, state.step ⟨t, start⟩ = .ok next) (hrest : Reaches next ts last) :
    Reaches state (t :: ts) last := by
  intro ls hls
  obtain ⟨⟨_, start⟩, rest, rfl, rfl, hts⟩ := List.map_eq_cons_iff.1 hls
  rw [List.foldlM_cons, h start]
  exact hrest rest hts

theorem append (h : Reaches state ts next) (h' : Reaches next us last) :
    Reaches state (ts ++ us) last := by
  intro ls hls
  obtain ⟨first, second, rfl, hts, hus⟩ := List.map_eq_append_iff.1 hls
  rw [List.foldlM_append, h first hts]
  exact h' second hus

end Reaches

section Steps

variable {stack : List Frame} {ts : List Token} {last : State}

theorem reaches_closeArray (done : List Value) (stack : List Frame) :
    Reaches (.afterItem done stack) [.closeArray] (State.put (.arr done.reverse) stack) :=
  .cons (fun _ => rfl) .nil

theorem reaches_closeObject (done : Members) (stack : List Frame) :
    Reaches (.afterMember done stack) [.closeObject] (State.put (.obj done) stack) :=
  .cons (fun _ => rfl) .nil

theorem reaches_nextItem {done : List Value}
    (h : Reaches (.awaitValue false (.array done :: stack)) ts last) :
    Reaches (.afterItem done stack) (.comma :: ts) last :=
  .cons (fun _ => rfl) h

theorem reaches_nextMember {done : Members} (h : Reaches (.awaitKey false done stack) ts last) :
    Reaches (.afterMember done stack) (.comma :: ts) last :=
  .cons (fun _ => rfl) h

/-- One more container can be opened where a value with a container in it fits. -/
theorem enter_eq {start : List Char} {n : Nat} (next : State)
    (h : stack.length + (n + 1) < depthLimit) : State.enter start stack next = .ok next :=
  if_pos (by omega)

end Steps

/-- The tokens of a value put it, in order, where the machine waits for it. -/
def Puts (v : Value) : Prop :=
  ∀ opened stack, stack.length + v.depth < depthLimit →
    Reaches (.awaitValue opened stack) v.tokens (State.put v.sorted stack)

namespace Puts

variable {v : Value} {stack : List Frame}

theorem item (h : Puts v) (hdepth : stack.length + 1 + v.depth < depthLimit) (opened : Bool)
    (done : List Value) :
    Reaches (.awaitValue opened (.array done :: stack)) v.tokens
      (.afterItem (v.sorted :: done) stack) :=
  h opened (.array done :: stack) hdepth

theorem member (h : Puts v) (hdepth : stack.length + 1 + v.depth < depthLimit) (opened : Bool)
    (done : Members) (k : String) :
    Reaches (.awaitKey opened done stack) (.text k :: .colon :: v.tokens)
      (.afterMember (Keyed.insert k v.sorted done) stack) :=
  .cons (fun _ => rfl) (.cons (fun _ => rfl) (h false (.object done k :: stack) hdepth))

end Puts

open Value (itemTokens memberTokens sortedMember)

/-- The items of an array from some item on, and its end. -/
theorem reaches_items {v : Value} {rest : List Value} {stack : List Frame}
    (h : ∀ w ∈ v :: rest, Puts w)
    (hdepth : ∀ w ∈ v :: rest, stack.length + 1 + w.depth < depthLimit)
    (opened : Bool) (done : List Value) :
    Reaches (.awaitValue opened (.array done :: stack)) (itemTokens (v :: rest) ++ [.closeArray])
      (State.put (.arr (done.reverse ++ (v :: rest).map Value.sorted)) stack) := by
  induction rest generalizing v opened done with
  | nil =>
      have hitem := (h _ List.mem_cons_self).item (hdepth _ List.mem_cons_self) opened done
      have hall := hitem.append (reaches_closeArray _ _)
      rwa [List.reverse_cons] at hall
  | cons w rest ih =>
      have hitem := (h _ List.mem_cons_self).item (hdepth _ List.mem_cons_self) opened done
      have hnext := ih (List.forall_mem_cons.1 h).2 (List.forall_mem_cons.1 hdepth).2 false
        (v.sorted :: done)
      have hall := hitem.append (reaches_nextItem hnext)
      simpa using hall

/-- The members of an object from some member on, and its end. -/
theorem reaches_members {entry : String × Value} {rest : List (String × Value)}
    {stack : List Frame} (h : ∀ other ∈ entry :: rest, Puts other.2)
    (hdepth : ∀ other ∈ entry :: rest, stack.length + 1 + other.2.depth < depthLimit)
    (opened : Bool) (done : Members) :
    Reaches (.awaitKey opened done stack) (memberTokens (entry :: rest) ++ [.closeObject])
      (State.put (.obj (Keyed.insertAll done ((entry :: rest).map sortedMember))) stack) := by
  induction rest generalizing entry opened done with
  | nil =>
      obtain ⟨k, v⟩ := entry
      have hmember := (h _ List.mem_cons_self).member (hdepth _ List.mem_cons_self) opened done k
      exact hmember.append (reaches_closeObject _ _)
  | cons other rest ih =>
      obtain ⟨k, v⟩ := entry
      have hmember := (h _ List.mem_cons_self).member (hdepth _ List.mem_cons_self) opened done k
      have hnext := ih (List.forall_mem_cons.1 h).2 (List.forall_mem_cons.1 hdepth).2 false
        (Keyed.insert k v.sorted done)
      have hall := hmember.append (reaches_nextMember hnext)
      simpa [Keyed.insertAll, sortedMember] using hall

theorem puts {v : Value} (h : v.Numberless) : Puts v := by
  induction h with
  | null => exact fun _ _ _ => .cons (fun _ => rfl) .nil
  | bool b => exact fun _ _ _ => .cons (fun _ => rfl) .nil
  | str text => exact fun _ _ _ => .cons (fun _ => rfl) .nil
  | @arr items _ ih =>
      intro opened stack hdepth
      refine .cons (fun _ => enter_eq _ hdepth) ?_
      rw [Value.sorted_arr]
      cases items with
      | nil => exact .cons (fun _ => rfl) .nil
      | cons w rest =>
          refine reaches_items ih (fun w hw => ?_) true []
          have := Value.depth_le_itemsDepth hw
          rw [Value.depth] at hdepth
          omega
  | @obj members _ ih =>
      intro opened stack hdepth
      refine .cons (fun _ => enter_eq _ hdepth) ?_
      rw [Value.sorted_obj]
      cases members with
      | nil => exact .cons (fun _ => rfl) .nil
      | cons entry rest =>
          refine reaches_members ih (fun other hother => ?_) true []
          have := Value.depth_le_membersDepth hother
          rw [Value.depth] at hdepth
          omega

section Read

variable {v : Value} (h : v.Numberless) (hdepth : v.depth < depthLimit)
include h hdepth

/-- A text that spells the tokens of a value is read as that value, with its members in order. -/
theorem read_of_spells {text : String} (hspells : Spells text.toList v.tokens) :
    read text = .ok v.sorted := by
  have htokens : tokens text.toList = v.tokens := by
    have h := hspells []
    rwa [List.append_nil, tokens_nil, List.append_nil] at h
  have hreach := puts h false [] (by rwa [List.length_nil, Nat.zero_add]) _ htokens
  rw [read, readChars, hreach]
  rfl

theorem read_compact : read v.compact = .ok v.sorted :=
  read_of_spells h hdepth (spells_compact h)

theorem read_pretty : read v.pretty = .ok v.sorted :=
  read_of_spells h hdepth (spells_prettyAt h 0)

end Read

end SchemaPages.Json
