import SyncQueue.Json.Schema
import SyncQueue.Proofs.Decimals

/-!
# Documents read back

The text of a value with every part on a line of its own is read as a tree. `Json.tree` says which:
that of the value, with numbers as they are written. Between the parts there is white space, which
is skipped, and behind a value there is a comma, a line break or nothing, so numbers end where they
should. The nesting that is allowed for is as deep as the text is long, which is always enough.

* `Json.tree`: the tree of a value.
* `Json.value?_prettyAt`: a value reads back, and what follows it is left.
* `Json.read?_prettyText`: a whole text.
* `Json.Tree.record?_object`: the fields of a record that has all of them.
-/

namespace SyncQueue.Json

open Text (natDigits intDigits)
open Json.Tree (StopsNumber skip isSpace)

/-! ## The tree of a value -/

mutual

/-- The tree that the text of a value has. -/
def tree : Json → Tree
  | .null => .null
  | .bool b => .bool b
  | .integer i => .number (.ofInt i)
  | .number (.finite negative m e) =>
    .number (.ofScientific negative (Number.Binary64.shortest .toEven m e))
  | .number _ => .null
  | .string s => .string (some s)
  | .array items => .array (treeItems items)
  | .object fields => .object (treeFields fields)

/-- The trees of the items of a list. -/
def treeItems : List Json → List Tree
  | [] => []
  | v :: vs => tree v :: treeItems vs

/-- The trees of the fields of a record. -/
def treeFields : List (String × Json) → List (Option String × Tree)
  | [] => []
  | (name, v) :: fs => (some name, tree v) :: treeFields fs

end

theorem treeFields_eq_map (fields : List (String × Json)) :
    treeFields fields = fields.map fun f => (some f.1, f.2.tree) := by
  induction fields with
  | nil => rfl
  | cons f fs ih => rw [treeFields, ih, List.map_cons]

/-! ## White space and brackets -/

variable {fuel level outer : Nat} {c : Char} {cs rest : List Char}

/-- The text begins with something else than white space. -/
def StartsToken (cs : List Char) : Prop := ∃ c ds, cs = c :: ds ∧ isSpace c = false

theorem StartsToken.skip_eq (h : StartsToken cs) : skip cs = cs := by
  obtain ⟨c, es, rfl, hc⟩ := h
  rw [skip, List.dropWhile_cons_of_neg (by simp [hc])]

theorem StartsToken.skip_newline (h : StartsToken cs) (level : Nat) :
    skip (newline level ++ cs) = cs := by
  have hspaces : ∀ c ∈ newline level, isSpace c := by
    intro c hc
    simp only [newline, List.mem_cons, List.mem_replicate] at hc
    obtain rfl | ⟨-, rfl⟩ := hc <;> rfl
  rw [skip, List.dropWhile_append_of_pos hspaces]
  exact h.skip_eq

/-- The text begins with something else than white space and what closes a list or a record. -/
def StartsPart (cs : List Char) : Prop :=
  ∃ c ds, cs = c :: ds ∧ isSpace c = false ∧ c ≠ ']' ∧ c ≠ '}'

theorem StartsPart.startsToken (h : StartsPart cs) : StartsToken cs := by
  obtain ⟨c, ds, hcs, hc, -⟩ := h
  exact ⟨c, ds, hcs, hc⟩

theorem StartsPart.append (h : StartsPart cs) (ds : List Char) : StartsPart (cs ++ ds) := by
  obtain ⟨c, es, rfl, hc⟩ := h
  exact ⟨c, es ++ ds, rfl, hc⟩

/-- A number begins with its sign or with a digit. -/
theorem exists_chars_eq_cons {n : NumberText} (h : n.WellFormed) :
    ∃ c cs, n.chars = c :: cs ∧ (c = '-' ∨ c.isDigit) := by
  obtain ⟨d, ds, hwhole⟩ := List.exists_cons_of_ne_nil h.whole.1
  have hd : d.isDigit := h.whole.2 d (by simp [hwhole])
  rw [NumberText.chars, NumberText.magnitude, hwhole]
  cases n.negative with
  | true => exact ⟨'-', _, rfl, .inl rfl⟩
  | false => exact ⟨d, _, rfl, .inr hd⟩

theorem value?_of_number (hc : c = '-' ∨ c.isDigit) :
    Tree.value? (fuel + 1) (c :: cs) =
      (Tree.number? (c :: cs)).map fun p => (.number p.1, p.2) := by
  have hne (d : Char) (ds : List Char) (hd : d ≠ '-') (hd' : d.isDigit = false) :
      c :: cs ≠ d :: ds := by
    rintro ⟨⟩
    simp_all
  rw [Tree.value?]
  · exact fun _ => hne 'n' _ (by decide) rfl
  · exact fun _ => hne 't' _ (by decide) rfl
  · exact fun _ => hne 'f' _ (by decide) rfl
  · exact fun _ => hne '"' _ (by decide) rfl
  · exact fun _ => hne '[' _ (by decide) rfl
  · exact fun _ => hne '{' _ (by decide) rfl

theorem value?_chars {n : NumberText} (h : n.WellFormed) (hrest : StopsNumber rest) :
    Tree.value? (fuel + 1) (n.chars ++ rest) = some (.number n, rest) := by
  have hnumber := NumberText.number?_chars h hrest
  obtain ⟨c, cs, hchars, hc⟩ := exists_chars_eq_cons h
  rw [hchars, List.cons_append] at hnumber ⊢
  rw [value?_of_number hc, hnumber, Option.map_some]

theorem value?_quoted (s : String) :
    Tree.value? (fuel + 1) (quoted s ++ rest) = some (.string (some s), rest) := by
  have htext : quoted s ++ rest = '"' :: (s.toList.flatMap escapeChar ++ '"' :: rest) := by
    simp [quoted]
  rw [htext, Tree.value?, Tree.string?_quoted, Option.map_some]

/-- A list that does not end at once. -/
theorem value?_bracket (h : StartsPart cs) (level : Nat) :
    Tree.value? (fuel + 1) ('[' :: (newline level ++ cs)) =
      (Tree.items? fuel cs).map fun p => (.array p.1, p.2) := by
  rw [Tree.value?, h.startsToken.skip_newline]
  obtain ⟨c, ds, rfl, -, hc, -⟩ := h
  split
  · rename_i heq
    exact absurd (List.cons.inj heq).1 hc
  · rfl

/-- A record that does not end at once. -/
theorem value?_brace (h : StartsPart cs) (level : Nat) :
    Tree.value? (fuel + 1) ('{' :: (newline level ++ cs)) =
      (Tree.fields? fuel cs).map fun p => (.object p.1, p.2) := by
  rw [Tree.value?, h.startsToken.skip_newline]
  obtain ⟨c, ds, rfl, -, -, hc⟩ := h
  split
  · rename_i heq
    exact absurd (List.cons.inj heq).1 hc
  · rfl

/-! ## Parts of lists and records -/

variable {next : List Char} {t : Tree}

theorem skip_newline_closing (closing : Char) (hclosing : isSpace closing = false) :
    skip (newline outer ++ closing :: rest) = closing :: rest :=
  StartsToken.skip_newline ⟨closing, rest, rfl, hclosing⟩ outer

theorem skip_comma : skip (',' :: cs) = ',' :: cs := StartsToken.skip_eq ⟨',', cs, rfl, rfl⟩

theorem items?_last (hvalue : Tree.value? fuel cs = some (t, newline outer ++ ']' :: rest)) :
    Tree.items? (fuel + 1) cs = some ([t], rest) := by
  rw [Tree.items?, hvalue]
  simp only [Option.bind_eq_bind, Option.bind_some, skip_newline_closing ']' rfl]
  rfl

theorem items?_more (hvalue : Tree.value? fuel cs = some (t, ',' :: (newline level ++ next)))
    (hnext : StartsToken next) :
    Tree.items? (fuel + 1) cs = (Tree.items? fuel next).map fun p => (t :: p.1, p.2) := by
  rw [Tree.items?, hvalue]
  simp only [Option.bind_eq_bind, Option.bind_some, skip_comma, hnext.skip_newline]
  cases Tree.items? fuel next <;> rfl

/-- The name of a field, and where its value begins. -/
theorem fields?_name (name : String) (hcs : StartsToken cs) :
    Tree.fields? (fuel + 1) (quoted name ++ ':' :: ' ' :: cs) =
      (Tree.value? fuel cs).bind fun p =>
        match skip p.2 with
        | ',' :: cs =>
          (Tree.fields? fuel (skip cs)).bind fun q => some ((some name, p.1) :: q.1, q.2)
        | '}' :: cs => some ([(some name, p.1)], cs)
        | _ => none := by
  have htext : quoted name ++ ':' :: ' ' :: cs =
      '"' :: (name.toList.flatMap escapeChar ++ '"' :: ':' :: ' ' :: cs) := by
    simp [quoted]
  have hcolon : skip (':' :: ' ' :: cs) = ':' :: ' ' :: cs :=
    StartsToken.skip_eq ⟨':', _, rfl, rfl⟩
  have hblank : skip (' ' :: cs) = cs := by
    rw [skip, List.dropWhile_cons_of_pos rfl]
    exact hcs.skip_eq
  rw [htext, Tree.fields?, Tree.string?_quoted]
  simp only [Option.bind_eq_bind, Option.bind_some, hcolon, hblank]
  rfl

theorem fields?_last (name : String) (hcs : StartsToken cs)
    (hvalue : Tree.value? fuel cs = some (t, newline outer ++ '}' :: rest)) :
    Tree.fields? (fuel + 1) (quoted name ++ ':' :: ' ' :: cs) =
      some ([(some name, t)], rest) := by
  rw [fields?_name name hcs, hvalue]
  simp only [Option.bind_some, skip_newline_closing '}' rfl]

theorem fields?_more (name : String) (hcs : StartsToken cs)
    (hvalue : Tree.value? fuel cs = some (t, ',' :: (newline level ++ next)))
    (hnext : StartsToken next) :
    Tree.fields? (fuel + 1) (quoted name ++ ':' :: ' ' :: cs) =
      (Tree.fields? fuel next).map fun p => ((some name, t) :: p.1, p.2) := by
  rw [fields?_name name hcs, hvalue]
  simp only [Option.bind_some, skip_comma, hnext.skip_newline]
  cases Tree.fields? fuel next <;> rfl

/-! ## Values -/

theorem leaf_integer (i : Int) : leaf (.integer i) = (NumberText.ofInt i).chars :=
  (NumberText.chars_ofInt i).symm

theorem leaf_finite (negative : Bool) (m : Nat) (e : Int) :
    leaf (.number (.finite negative m e)) =
      (NumberText.ofScientific negative (Number.Binary64.shortest .toEven m e)).chars :=
  (NumberText.chars_ofScientific _ _).symm

theorem startsPart_chars {n : NumberText} (h : n.WellFormed) : StartsPart n.chars := by
  obtain ⟨c, cs, hchars, hc⟩ := exists_chars_eq_cons h
  refine ⟨c, cs, hchars, ?_⟩
  obtain rfl | hc := hc
  · decide
  · have hne (d : Char) (hd : d.isDigit = false) : c ≠ d := NumberText.ne_of_isDigit hc hd
    simp [isSpace, hne]

theorem startsPart_prettyAt (v : Json) (level : Nat) : StartsPart (v.prettyAt level) := by
  have hblock (opening closing : Char) (parts : List (List Char)) :
      ∃ cs, block opening closing level parts = opening :: cs := by
    rw [block]
    split <;> exact ⟨_, rfl⟩
  have hnull : StartsPart (leaf .null) := ⟨'n', _, rfl, by decide⟩
  cases v with
  | null => exact hnull
  | bool b => cases b <;> exact ⟨_, _, rfl, by decide⟩
  | integer i =>
    change StartsPart (leaf (.integer i))
    rw [leaf_integer]
    exact startsPart_chars (NumberText.wellFormed_ofInt i)
  | number x =>
    cases x with
    | nan => exact hnull
    | infinite negative => exact hnull
    | finite negative m e =>
      change StartsPart (leaf (.number (.finite negative m e)))
      rw [leaf_finite]
      exact startsPart_chars (NumberText.wellFormed_ofScientific _ _)
  | string s => exact ⟨'"', _, rfl, by decide⟩
  | array items =>
    obtain ⟨cs, hcs⟩ := hblock '[' ']' (prettyItems (level + 1) items)
    exact ⟨'[', cs, hcs, by decide⟩
  | object fields =>
    obtain ⟨cs, hcs⟩ := hblock '{' '}' (prettyFields (level + 1) fields)
    exact ⟨'{', cs, hcs, by decide⟩

theorem stopsNumber_cons (h : c = '\n' ∨ c = ',') : StopsNumber (c :: cs) := by
  intro d hd
  cases hd
  obtain rfl | rfl := h <;> decide

/-- A value without parts reads back. -/
theorem value?_leaf (v : Json) (hitems : ∀ items, v ≠ .array items)
    (hfields : ∀ fields, v ≠ .object fields) (hrest : StopsNumber rest) :
    Tree.value? (fuel + 1) (leaf v ++ rest) = some (v.tree, rest) := by
  have hnull : Tree.value? (fuel + 1) (leaf .null ++ rest) = some (.null, rest) := rfl
  cases v with
  | null => exact hnull
  | bool b => cases b <;> rfl
  | integer i =>
    rw [leaf_integer]
    exact value?_chars (NumberText.wellFormed_ofInt i) hrest
  | number x =>
    cases x with
    | nan => exact hnull
    | infinite => exact hnull
    | finite negative m e =>
      rw [leaf_finite]
      exact value?_chars (NumberText.wellFormed_ofScientific _ _) hrest
  | string s => exact value?_quoted s
  | array items => exact absurd rfl (hitems items)
  | object fields => exact absurd rfl (hfields fields)

/-! ## Lists and records -/

/-- Parts on lines of their own. -/
def joined (level : Nat) (parts : List (List Char)) : List Char :=
  separated (',' :: newline level) parts

theorem joined_cons (level : Nat) (t u : List Char) (ts : List (List Char)) :
    joined level (t :: u :: ts) = t ++ ',' :: (newline level ++ joined level (u :: ts)) := by
  simp [joined, separated]

theorem startsPart_joined {t : List Char} (h : StartsPart t) (level : Nat)
    (ts : List (List Char)) : StartsPart (joined level (t :: ts)) := by
  cases ts with
  | nil => exact h
  | cons u us =>
    rw [joined_cons]
    exact h.append _

/-- A field with its name. -/
def prettyField (level : Nat) (name : String) (v : Json) : List Char :=
  quoted name ++ ':' :: ' ' :: v.prettyAt level

theorem startsPart_prettyField (level : Nat) (name : String) (v : Json) :
    StartsPart (prettyField level name v) :=
  ⟨'"', _, rfl, by decide⟩

theorem prettyField_append (level : Nat) (name : String) (v : Json) (rest : List Char) :
    prettyField level name v ++ rest = quoted name ++ ':' :: ' ' :: (v.prettyAt level ++ rest) := by
  simp [prettyField]

theorem length_prettyAt_lt (level : Nat) (name : String) (v : Json) :
    (v.prettyAt level).length < (prettyField level name v).length := by
  simp only [prettyField, List.length_append, List.length_cons]
  omega

theorem block_append {parts : List (List Char)} (hparts : parts ≠ []) (opening closing : Char)
    (level : Nat) (rest : List Char) :
    block opening closing level parts ++ rest =
      opening :: (newline (level + 1) ++
        (joined (level + 1) parts ++ (newline level ++ closing :: rest))) := by
  rw [block, if_neg (by simpa using hparts), joined]
  simp

theorem length_joined_lt {parts : List (List Char)} (hparts : parts ≠ [])
    (opening closing : Char) (level : Nat) :
    (joined (level + 1) parts).length + 1 < (block opening closing level parts).length := by
  rw [block, if_neg (by simpa using hparts), joined]
  simp only [List.length_append, List.length_cons]
  omega

-- The depth that is allowed for is the length of the text: brackets, separators and names make it
-- longer than the texts of the parts.
mutual

/-- **A value reads back**, and what follows it is left. -/
theorem value?_prettyAt : ∀ (v : Json) {level fuel : Nat} {rest : List Char},
    (v.prettyAt level).length ≤ fuel → StopsNumber rest →
      Tree.value? (fuel + 1) (v.prettyAt level ++ rest) = some (v.tree, rest)
  | .array [], _, _, _, _, _ => rfl
  | .array (v :: vs), level, fuel, rest, hfuel, _ => by
    have hparts : v.prettyAt (level + 1) :: prettyItems (level + 1) vs ≠ [] := List.cons_ne_nil _ _
    have hlength := length_joined_lt hparts '[' ']' level
    have hstarts := startsPart_joined (startsPart_prettyAt v (level + 1)) (level + 1)
      (prettyItems (level + 1) vs)
    rw [prettyAt, prettyItems] at hfuel ⊢
    rw [block_append hparts, value?_bracket (hstarts.append _),
      items?_joined v vs (Nat.lt_of_lt_of_le hlength hfuel)]
    rfl
  | .object [], _, _, _, _, _ => rfl
  | .object ((name, v) :: fs), level, fuel, rest, hfuel, _ => by
    have hparts : prettyField (level + 1) name v :: prettyFields (level + 1) fs ≠ [] :=
      List.cons_ne_nil _ _
    have hlength := length_joined_lt hparts '{' '}' level
    have hstarts := startsPart_joined (startsPart_prettyField (level + 1) name v) (level + 1)
      (prettyFields (level + 1) fs)
    rw [prettyAt, prettyFields, ← prettyField] at hfuel ⊢
    rw [block_append hparts, value?_brace (hstarts.append _),
      fields?_joined name v fs (Nat.lt_of_lt_of_le hlength hfuel)]
    rfl
  | .null, _, _, _, _, hrest => value?_leaf .null (by simp) (by simp) hrest
  | .bool b, _, _, _, _, hrest => value?_leaf (.bool b) (by simp) (by simp) hrest
  | .integer i, _, _, _, _, hrest => value?_leaf (.integer i) (by simp) (by simp) hrest
  | .number x, _, _, _, _, hrest => value?_leaf (.number x) (by simp) (by simp) hrest
  | .string s, _, _, _, _, hrest => value?_leaf (.string s) (by simp) (by simp) hrest
termination_by v => sizeOf v

theorem items?_joined : ∀ (v : Json) (vs : List Json) {level outer fuel : Nat}
    {rest : List Char},
    (joined level (v.prettyAt level :: prettyItems level vs)).length + 1 < fuel →
      Tree.items? fuel (joined level (v.prettyAt level :: prettyItems level vs) ++
        (newline outer ++ ']' :: rest)) = some (treeItems (v :: vs), rest)
  | v, [], level, outer, fuel + 2, rest, hfuel => by
    have hlength : (v.prettyAt level).length + 1 < fuel + 2 := hfuel
    exact items?_last (value?_prettyAt v (by omega) (stopsNumber_cons (.inl rfl)))
  | v, w :: vs, level, outer, fuel + 2, rest, hfuel => by
    rw [prettyItems, joined_cons] at hfuel ⊢
    simp only [List.length_append, List.length_cons] at hfuel
    have hstarts := startsPart_joined (startsPart_prettyAt w level) level (prettyItems level vs)
    have hvalue (next : List Char) : Tree.value? (fuel + 1) (v.prettyAt level ++ ',' :: next) =
        some (v.tree, ',' :: next) :=
      value?_prettyAt v (by omega) (stopsNumber_cons (.inr rfl))
    simp only [List.append_assoc, List.cons_append]
    rw [items?_more (hvalue _) (hstarts.append _).startsToken, items?_joined w vs (by omega)]
    rfl
termination_by v vs => sizeOf v + sizeOf vs

theorem fields?_joined : ∀ (name : String) (v : Json) (fs : List (String × Json))
    {level outer fuel : Nat} {rest : List Char},
    (joined level (prettyField level name v :: prettyFields level fs)).length + 1 < fuel →
      Tree.fields? fuel (joined level (prettyField level name v :: prettyFields level fs) ++
        (newline outer ++ '}' :: rest)) = some (treeFields ((name, v) :: fs), rest)
  | name, v, [], level, outer, fuel + 2, rest, hfuel => by
    have hshort := length_prettyAt_lt level name v
    have hlength : (prettyField level name v).length + 1 < fuel + 2 := hfuel
    change Tree.fields? (fuel + 2) (prettyField level name v ++ _) = _
    rw [prettyField_append]
    exact fields?_last name ((startsPart_prettyAt v level).append _).startsToken
      (value?_prettyAt v (by omega) (stopsNumber_cons (.inl rfl)))
  | name, v, (name', w) :: fs, level, outer, fuel + 2, rest, hfuel => by
    have hshort := length_prettyAt_lt level name v
    rw [prettyFields, ← prettyField, joined_cons] at hfuel ⊢
    simp only [List.length_append, List.length_cons] at hfuel
    have hstarts := startsPart_joined (startsPart_prettyField level name' w) level
      (prettyFields level fs)
    have hvalue (next : List Char) : Tree.value? (fuel + 1) (v.prettyAt level ++ ',' :: next) =
        some (v.tree, ',' :: next) :=
      value?_prettyAt v (by omega) (stopsNumber_cons (.inr rfl))
    simp only [List.append_assoc, List.cons_append]
    rw [prettyField_append, fields?_more name ((startsPart_prettyAt v level).append _).startsToken
      (hvalue _) (hstarts.append _).startsToken, fields?_joined name' w fs (by omega)]
    rfl
termination_by _ v fs => sizeOf v + sizeOf fs

end

/-! ## Whole texts -/

/-- **A document reads back.** -/
theorem read?_prettyText (v : Json) : Tree.read? v.prettyText.toList = some v.tree := by
  have hstop : StopsNumber [] := fun c hc => by cases hc
  have hvalue : Tree.value? ((v.prettyAt 0).length + 1) (v.prettyAt 0 ++ []) = some (v.tree, []) :=
    value?_prettyAt v (Nat.le_refl _) hstop
  rw [List.append_nil] at hvalue
  rw [prettyText, String.toList_ofList, Tree.read?,
    (startsPart_prettyAt v 0).startsToken.skip_eq, hvalue]
  rfl

/-! ## Records with known fields -/

section

variable {fields : List (String × Json)} {f : String × Json}

theorem filter_treeFields (hnodup : (fields.map Prod.fst).Nodup) (hf : f ∈ fields) :
    (treeFields fields).filter (fun g => g.1 = some f.1) = [(some f.1, f.2.tree)] := by
  have hothers {gs : List (String × Json)} (h : f.1 ∉ gs.map Prod.fst) :
      (treeFields gs).filter (fun g => g.1 = some f.1) = [] := by
    rw [treeFields_eq_map, List.filter_map, List.map_eq_nil_iff, List.filter_eq_nil_iff]
    intro g hg
    simp only [Function.comp_apply, Option.some.injEq, decide_eq_true_eq]
    exact fun heq => h (heq ▸ List.mem_map_of_mem hg)
  induction fields with
  | nil => cases hf
  | cons g gs ih =>
    rw [List.map_cons, List.nodup_cons] at hnodup
    obtain rfl | hf := List.mem_cons.1 hf
    · simp [treeFields, hothers hnodup.1]
    · have hne : g.1 ≠ f.1 := fun heq => hnodup.1 (heq ▸ List.mem_map_of_mem hf)
      simp [treeFields, hne, ih hnodup.2 hf]

/-- **A record with all of its fields** gives their values in the order of the fields. -/
theorem Tree.record?_object {names : List String} (hnames : fields.map Prod.fst = names)
    (hnodup : names.Nodup) :
    (Json.object fields).tree.record? names =
      some (.named (fields.map fun f => some f.2.tree)) := by
  subst hnames
  have hnamed : (treeFields fields).all (fun f => f.1.isSome) = true := by
    simp [treeFields_eq_map]
  have hvalues (gs : List (String × Json)) (hgs : ∀ g ∈ gs, g ∈ fields) :
      (gs.map Prod.fst).mapM (Tree.onlyField? (treeFields fields)) =
        some (gs.map fun f => some f.2.tree) := by
    induction gs with
    | nil => rfl
    | cons g gs ih =>
      have hfield : Tree.onlyField? (treeFields fields) g.1 = some (some g.2.tree) := by
        rw [Tree.onlyField?, filter_treeFields hnodup (hgs g List.mem_cons_self)]
      rw [List.map_cons, List.mapM_cons, hfield, ih fun f hf => hgs f (List.mem_cons_of_mem g hf)]
      rfl
  rw [tree, Tree.record?, if_pos hnamed, hvalues fields fun _ hg => hg, Option.map_some]

end

end SyncQueue.Json
