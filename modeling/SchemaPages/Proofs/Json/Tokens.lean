import SchemaPages.Json.Lexeme
import SchemaPages.Json.Printer
import SchemaPages.Proofs.Json.Values

/-!
The tokens of a printed value. A text spells some tokens if reading it gives them whatever follows;
texts that follow one another spell what each of them spells. Both ways of printing a value spell
the tokens of the value. Numbers are left out, as they go on with the digits that follow them.
-/

namespace SchemaPages.Json

def tokens (s : List Char) : List Token := (lexemes s).map Lexeme.token

/-- The text gives the tokens, whatever follows it. -/
def Spells (s : List Char) (ts : List Token) : Prop :=
  ∀ rest, tokens (s ++ rest) = ts ++ tokens rest

/-! ### Scanning -/

theorem lexemes_eq (s : List Char) :
    lexemes s = match s.dropWhile isSpace with
      | [] => []
      | c :: rest => ⟨(scanToken c rest).1, c :: rest⟩ :: lexemes (scanToken c rest).2 := by
  rw [lexemes]
  split
  · rename_i h
    rw [h]
  · rename_i h
    rw [h]

theorem tokens_nil : tokens [] = [] := by
  rw [tokens, lexemes_eq]
  rfl

theorem tokens_space {c : Char} (h : isSpace c = true) (s : List Char) :
    tokens (c :: s) = tokens s := by
  rw [tokens, lexemes_eq, List.dropWhile_cons_of_pos h, ← lexemes_eq, tokens]

theorem tokens_cons {c : Char} (h : isSpace c = false) (s : List Char) :
    tokens (c :: s) = (scanToken c s).1 :: tokens (scanToken c s).2 := by
  rw [tokens, lexemes_eq, List.dropWhile_cons_of_neg (by simp [h])]
  rfl

namespace Spells

theorem nil : Spells [] [] := fun _ => rfl

theorem append {s t : List Char} {ts us : List Token} (h : Spells s ts) (h' : Spells t us) :
    Spells (s ++ t) (ts ++ us) := by
  intro rest
  rw [List.append_assoc, h, h', List.append_assoc]

theorem space {c : Char} (h : isSpace c = true) : Spells [c] [] := fun rest => tokens_space h rest

theorem spaces {s : List Char} (h : ∀ c ∈ s, isSpace c = true) : Spells s [] := by
  induction s with
  | nil => exact nil
  | cons c s ih =>
      obtain ⟨hc, hs⟩ := List.forall_mem_cons.1 h
      exact (space hc).append (ih hs)

/-- A text that is scanned as one token, whatever follows it. -/
theorem token {c : Char} {s : List Char} {t : Token} (hc : isSpace c = false)
    (h : ∀ rest, scanToken c (s ++ rest) = (t, rest)) : Spells (c :: s) [t] := by
  intro rest
  rw [List.cons_append, tokens_cons hc, h]
  rfl

end Spells

theorem spells_mark {c : Char} {t : Token} (hc : isSpace c = false) (h : mark? c = some t) :
    Spells [c] [t] :=
  .token hc fun rest => by simp only [scanToken, h, List.nil_append]

theorem spells_null : Spells "null".toList [.scalar .null] := .token rfl fun _ => rfl

theorem spells_bool (b : Bool) : Spells (Value.bool b).scalarText.toList [.scalar (.bool b)] := by
  cases b with
  | false => exact .token rfl fun _ => rfl
  | true => exact .token rfl fun _ => rfl

/-! ### Strings -/

theorem hexDigit?_hexDigit : ∀ n < 16, hexDigit? (hexDigit n) = some n := by decide

theorem scanHex_hexDigit {n : Nat} (h : n < 32) (rest : List Char) :
    scanHex ('0' :: '0' :: hexDigit (n / 16) :: hexDigit (n % 16) :: rest) = .ok (n, rest) := by
  have hzero : hexDigit? '0' = some 0 := rfl
  have hhigh := hexDigit?_hexDigit (n / 16) (by omega)
  have hlow := hexDigit?_hexDigit (n % 16) (by omega)
  have hvalue : ((0 * 16 + 0) * 16 + n / 16) * 16 + n % 16 = n := by omega
  simp only [scanHex, hzero, hhigh, hlow, hvalue]

theorem scanText_escape {done s rest : List Char} {c : Char} (h : scanEscape s = .ok (c, rest)) :
    scanText done ('\\' :: s) = scanText (c :: done) rest := by
  rw [scanText]
  split
  · rename_i hscan
    rw [h] at hscan
    cases hscan
  · rename_i hscan
    rw [h] at hscan
    cases hscan
    rfl

theorem scanEscape_short {c plain : Char} (hc : c ≠ 'u') (h : shortEscape? c = some plain)
    (rest : List Char) : scanEscape (c :: rest) = .ok (plain, rest) := by
  unfold scanEscape
  split
  · rename_i hnil
    cases hnil
  · rename_i hcons
    exact absurd (List.cons.inj hcons).1 hc
  · rename_i hcons
    cases hcons
    rw [h]

theorem scanEscape_control {c : Char} (h : c.toNat < 32) (rest : List Char) :
    scanEscape ('u' :: '0' :: '0' :: hexDigit (c.toNat / 16) :: hexDigit (c.toNat % 16) :: rest) =
      .ok (c, rest) := by
  have hlow : isLowSurrogate c.toNat = false := by simp [isLowSurrogate]; omega
  have hhigh : isHighSurrogate c.toNat = false := by simp [isHighSurrogate]; omega
  simp only [scanEscape, scanHex_hexDigit h, hlow, hhigh, Char.ofNat_toNat, if_false,
    Bool.false_eq_true]

theorem scanText_escapeChar (c : Char) (done rest : List Char) :
    scanText done (escapeChar c ++ rest) = scanText (c :: done) rest := by
  fun_cases escapeChar c with
  | case8 _ _ _ _ _ _ _ hcontrol => exact scanText_escape (scanEscape_control hcontrol rest)
  | case9 hquote hbackslash _ _ _ _ _ hcontrol =>
      rw [List.singleton_append, scanText, if_neg hcontrol]
      · exact hquote
      · exact hbackslash
  -- The other characters have a letter of their own.
  | _ =>
      subst c
      exact scanText_escape (scanEscape_short (by decide) rfl rest)

theorem scanText_flatMap (s done rest : List Char) :
    scanText done (s.flatMap escapeChar ++ '"' :: rest) =
      .ok (String.ofList (done.reverse ++ s), rest) := by
  induction s generalizing done with
  | nil => rw [List.flatMap_nil, List.nil_append, scanText, List.append_nil]
  | cons c s ih =>
      rw [List.flatMap_cons, List.append_assoc, scanText_escapeChar, ih, List.reverse_cons,
        List.append_assoc, List.singleton_append]

theorem spells_encodeText (text : String) : Spells (encodeText text).toList [.text text] := by
  rw [encodeText, String.toList_ofList, List.cons_append]
  refine .token rfl fun rest => ?_
  have hscan := scanText_flatMap text.toList [] rest
  rw [List.reverse_nil, List.nil_append, String.ofList_toList] at hscan
  have hnone : mark? '"' = none := rfl
  rw [List.append_assoc, List.singleton_append, scanToken, hnone]
  simp only [hscan, if_true]

/-! ### The tokens of a value -/

namespace Value

mutual

def tokens : Value → List Token
  | .arr items => .openArray :: (itemTokens items ++ [.closeArray])
  | .obj members => .openObject :: (memberTokens members ++ [.closeObject])
  | .str text => [.text text]
  | v => [.scalar v]

def itemTokens : List Value → List Token
  | [] => []
  | [v] => v.tokens
  | v :: rest => v.tokens ++ .comma :: itemTokens rest

def memberTokens : List (String × Value) → List Token
  | [] => []
  | [(k, v)] => .text k :: .colon :: v.tokens
  | (k, v) :: rest => .text k :: .colon :: (v.tokens ++ .comma :: memberTokens rest)

end

@[simp] theorem tokens_arr (items : List Value) :
    (arr items).tokens = .openArray :: (itemTokens items ++ [.closeArray]) := rfl

@[simp] theorem tokens_obj (members : List (String × Value)) :
    (obj members).tokens = .openObject :: (memberTokens members ++ [.closeObject]) := rfl

@[simp] theorem itemTokens_cons_cons (v w : Value) (rest : List Value) :
    itemTokens (v :: w :: rest) = v.tokens ++ .comma :: itemTokens (w :: rest) := rfl

@[simp] theorem memberTokens_singleton (k : String) (v : Value) :
    memberTokens [(k, v)] = .text k :: .colon :: v.tokens := rfl

@[simp] theorem memberTokens_cons_cons (k : String) (v : Value) (entry : String × Value)
    (rest : List (String × Value)) :
    memberTokens ((k, v) :: entry :: rest) =
      .text k :: .colon :: (v.tokens ++ .comma :: memberTokens (entry :: rest)) := rfl

end Value

/-! ### Printing on one line -/

section Printing

open Value

theorem spells_comma : Spells [','] [.comma] := spells_mark rfl rfl

theorem spells_colon : Spells [':'] [.colon] := spells_mark rfl rfl

theorem spells_array {s : List Char} {ts : List Token} (h : Spells s ts) :
    Spells ('[' :: (s ++ [']'])) (.openArray :: (ts ++ [.closeArray])) :=
  (spells_mark rfl rfl : Spells ['['] [.openArray]).append (h.append (spells_mark rfl rfl))

theorem spells_object {s : List Char} {ts : List Token} (h : Spells s ts) :
    Spells ('\x7b' :: (s ++ ['\x7d'])) (.openObject :: (ts ++ [.closeObject])) :=
  (spells_mark rfl rfl : Spells ['\x7b'] [.openObject]).append (h.append (spells_mark rfl rfl))

theorem spells_compactItems {items : List Value}
    (h : ∀ v ∈ items, Spells v.compact.toList v.tokens) :
    Spells (compactItems items).toList (itemTokens items) := by
  induction items with
  | nil => exact .nil
  | cons v rest ih =>
      obtain ⟨hv, hrest⟩ := List.forall_mem_cons.1 h
      cases rest with
      | nil => exact hv
      | cons w rest =>
          rw [compactItems, String.toList_append, String.toList_append, List.append_assoc]
          · exact hv.append (spells_comma.append (ih hrest))
          · exact List.cons_ne_nil w rest

theorem spells_compactMembers {members : List (String × Value)}
    (h : ∀ entry ∈ members, Spells entry.2.compact.toList entry.2.tokens) :
    Spells (compactMembers members).toList (memberTokens members) := by
  induction members with
  | nil => exact .nil
  | cons entry rest ih =>
      obtain ⟨k, v⟩ := entry
      obtain ⟨hv, hrest⟩ := List.forall_mem_cons.1 h
      have hmember := (spells_encodeText k).append (spells_colon.append hv)
      cases rest with
      | nil =>
          rw [compactMembers, String.toList_append, String.toList_append, List.append_assoc]
          exact hmember
      | cons w rest =>
          rw [compactMembers]
          · simpa [String.toList_append, List.append_assoc] using
              hmember.append (spells_comma.append (ih hrest))
          · exact List.cons_ne_nil w rest

theorem spells_compact {v : Value} (h : v.Numberless) : Spells v.compact.toList v.tokens := by
  induction h with
  | null => exact spells_null
  | bool b => exact spells_bool b
  | str text => exact spells_encodeText text
  | @arr items _ ih =>
      have hitems := spells_array (spells_compactItems ih)
      rw [compact, String.toList_append, String.toList_append, List.append_assoc]
      exact hitems
  | @obj members _ ih =>
      have hmembers := spells_object (spells_compactMembers ih)
      rw [compact, String.toList_append, String.toList_append, List.append_assoc]
      exact hmembers

/-! ### Printing over several lines -/

theorem spells_indent (depth : Nat) : Spells (indent depth).toList [] := by
  rw [indent, String.toList_ofList]
  refine .spaces fun c hc => ?_
  rw [(List.mem_replicate.1 hc).2]
  rfl

theorem spells_newline : Spells ['\n'] [] := .space rfl

theorem spells_prettyItems {depth : Nat} {items : List Value}
    (h : ∀ v ∈ items, Spells (v.prettyAt depth).toList v.tokens) :
    Spells (prettyItems depth items).toList (itemTokens items) := by
  induction items with
  | nil => exact .nil
  | cons v rest ih =>
      obtain ⟨hv, hrest⟩ := List.forall_mem_cons.1 h
      have hitem := (spells_indent depth).append hv
      cases rest with
      | nil =>
          rw [prettyItems, String.toList_append]
          exact hitem
      | cons w rest =>
          rw [prettyItems]
          · simpa [String.toList_append, List.append_assoc] using
              hitem.append (spells_comma.append (spells_newline.append (ih hrest)))
          · exact List.cons_ne_nil w rest

theorem spells_prettyMembers {depth : Nat} {members : List (String × Value)}
    (h : ∀ entry ∈ members, Spells (entry.2.prettyAt depth).toList entry.2.tokens) :
    Spells (prettyMembers depth members).toList (memberTokens members) := by
  induction members with
  | nil => exact .nil
  | cons entry rest ih =>
      obtain ⟨k, v⟩ := entry
      obtain ⟨hv, hrest⟩ := List.forall_mem_cons.1 h
      have hblank : Spells [' '] [] := .space rfl
      have hkey := (spells_indent depth).append (spells_encodeText k)
      have hmember := hkey.append (spells_colon.append (hblank.append hv))
      cases rest with
      | nil =>
          rw [prettyMembers]
          simpa [String.toList_append, List.append_assoc] using hmember
      | cons w rest =>
          rw [prettyMembers]
          · simpa [String.toList_append, List.append_assoc] using
              hmember.append (spells_comma.append (spells_newline.append (ih hrest)))
          · exact List.cons_ne_nil w rest

theorem spells_lines {s : List Char} {ts : List Token} (h : Spells s ts) (depth : Nat) :
    Spells ('\n' :: (s ++ '\n' :: (indent depth).toList)) ts := by
  have hlast := spells_newline.append (spells_indent depth)
  simpa using spells_newline.append (h.append hlast)

theorem spells_prettyAt {v : Value} (h : v.Numberless) (depth : Nat) :
    Spells (v.prettyAt depth).toList v.tokens := by
  induction h generalizing depth with
  | null => exact spells_null
  | bool b => exact spells_bool b
  | str text => exact spells_encodeText text
  | @arr items _ ih =>
      cases items with
      | nil =>
          rw [prettyAt]
          exact spells_array .nil
      | cons w rest =>
          have hitems := spells_prettyItems fun v hv => ih v hv (depth + 1)
          rw [prettyAt]
          · simpa [String.toList_append, List.append_assoc] using
              spells_array (spells_lines hitems depth)
          · exact List.cons_ne_nil w rest
  | @obj members _ ih =>
      cases members with
      | nil =>
          rw [prettyAt]
          exact spells_object .nil
      | cons w rest =>
          have hmembers := spells_prettyMembers fun entry he => ih entry he (depth + 1)
          rw [prettyAt]
          · simpa [String.toList_append, List.append_assoc] using
              spells_object (spells_lines hmembers depth)
          · exact List.cons_ne_nil w rest

end Printing

end SchemaPages.Json
