import Mathlib.Data.List.Forall2
import UtteranceTemplate.Proofs.JsonNumbers

/-!
Values that are written as JSON and read again.

A value that has no fault is read back from what is written for it
(`Json.decode_encode`): the values inside it come back one by one, where
floating-point numbers and texts come back as their own modules say, and of members
under the same key the last one stays (`Json.reread`). The reader takes what is
written for a value as one step from where a value must come to where it is complete
(`Json.IsReadBack`); items and members are such steps one after the other. All that
is written is printable ASCII and line feeds (`Json.isPlain_encode`).
-/

namespace UtteranceTemplate

namespace Json

mutual

/-- The value that is read where a value is written. -/
def reread : Json → Json
  | .null => .null
  | .bool b => .bool b
  | .int n => .int n
  | .float x => Token.readBack x
  | .text t => .text (joined t)
  | .array items => .array (rereadItems items)
  | .object members => .object (Entries.ofPairs (rereadMembers members))

/-- The values that are read where items are written. -/
def rereadItems : List Json → List Json
  | [] => []
  | item :: rest => reread item :: rereadItems rest

/-- The keys and values that are read where members are written. -/
def rereadMembers : List (Text × Json) → List (Text × Json)
  | [] => []
  | (key, value) :: rest => (joined key, reread value) :: rereadMembers rest

end

section Kinds

variable {json : Json}

theorem reread_eq_null_iff : reread json = .null ↔ json = .null := by
  cases json with
  | float x =>
      obtain ⟨y, hy, _⟩ := Token.exists_readBack x
      simp [reread, hy]
  | _ => simp [reread]

theorem reread_eq_bool_iff {b : Bool} : reread json = .bool b ↔ json = .bool b := by
  cases json with
  | float x =>
      obtain ⟨y, hy, _⟩ := Token.exists_readBack x
      simp [reread, hy]
  | _ => simp [reread]

theorem reread_eq_text_iff {t : Text} :
    reread json = .text t ↔ ∃ s, json = .text s ∧ joined s = t := by
  cases json with
  | float x =>
      obtain ⟨y, hy, _⟩ := Token.exists_readBack x
      simp [reread, hy]
  | _ => simp [reread]

end Kinds

open Token

namespace Decoder

variable {decoder next last : Decoder} {frames : List Frame}
  {input rest after : Text}

/-- Whether reading goes on with another decoder behind a part of the text. -/
def Advances (decoder : Decoder) (input : Text) (next : Decoder)
    (rest : Text) : Prop :=
  ∀ position, ∃ position',
    decoder.run (lexFrom position input) = next.run (lexFrom position' rest)

theorem Advances.trans (h : Advances decoder input next rest)
    (h' : Advances next rest last after) :
    Advances decoder input last after := by
  intro position
  obtain ⟨between, hfirst⟩ := h position
  obtain ⟨position', hlast⟩ := h' between
  exact ⟨position', hfirst.trans hlast⟩

/-- Whether a text is blank to the reader. -/
def IsSpacing (text : Text) : Prop := ∀ c ∈ text, isSpace c = true

/-- Whether a text is read as a token in front of another one. -/
structure IsToken (word : Text) (token : Token) (rest : Text) : Prop where
  head : ∃ c, word.head? = some c ∧ isSpace c = false
  read : ∀ position, readFirst position (word ++ rest) = (token, rest)
  ne_finish : token ≠ .finish
  ne_unreadable : ∀ fault quote, token ≠ .unreadable fault quote

theorem dropWhile_spacing {spaces word : Text} (hspaces : IsSpacing spaces)
    (hhead : ∃ c, word.head? = some c ∧ isSpace c = false) (rest : Text) :
    (spaces ++ (word ++ rest)).dropWhile isSpace = word ++ rest := by
  obtain ⟨c, hc, hspace⟩ := hhead
  cases word with
  | nil => cases hc
  | cons d word =>
      obtain rfl := Option.some.inj hc
      have hnext : ∀ e, (d :: (word ++ rest)).head? = some e →
          isSpace e = false := by
        intro e he
        rw [← Option.some.inj he, hspace]
      exact (Text.takeWhile_append_of_head? hspaces hnext).2

/-- The reader goes on behind a token that fits. -/
theorem advances_of_token {spaces word : Text} {token : Token}
    (hspaces : IsSpacing spaces) (hword : IsToken word token rest)
    (hstep : ∀ position, decoder.step position token = .ok next) :
    Advances decoder (spaces ++ (word ++ rest)) next rest := by
  intro position
  have hlength : rest.length < (spaces ++ (word ++ rest)).length := by
    obtain ⟨c, hc, _⟩ := hword.head
    have hpos : 0 < word.length := List.length_pos_iff.mpr fun hnil => by
      simp [hnil] at hc
    simp only [List.length_append]
    omega
  rw [lexFrom]
  simp only [dropWhile_spacing hspaces hword.head rest, hword.read]
  split
  · exact absurd rfl hword.ne_finish
  · exact absurd rfl (hword.ne_unreadable _ _)
  · rw [dif_pos hlength]
    exact ⟨_, by rw [run, hstep]⟩

section Tokens

theorem isToken_null (rest : Text) : IsToken "null".text (.atom .null) rest where
  head := ⟨'n', rfl, rfl⟩
  read _ := rfl
  ne_finish := nofun
  ne_unreadable := nofun

theorem isToken_bool (b : Bool) (rest : Text) :
    IsToken (if b then "true".text else "false".text) (.atom (.bool b)) rest where
  head := by cases b <;> exact ⟨_, rfl, rfl⟩
  read _ := by cases b <;> rfl
  ne_finish := nofun
  ne_unreadable := nofun

theorem isToken_ofInt {n : Int} (h : (Text.ofNat n.natAbs).length ≤ digitLimit)
    (hrest : EndsNumber rest) :
    IsToken (Text.ofInt n) (.atom (.int n)) rest where
  head := head?_ofInt n
  read := readFirst_ofInt h hrest
  ne_finish := nofun
  ne_unreadable := nofun

theorem isToken_encodeFloat (x : Float) (hrest : EndsNumber rest) :
    IsToken (encodeFloat x) (.atom (readBack x)) rest where
  head := head?_encodeFloat x
  read := readFirst_encodeFloat x hrest
  ne_finish := nofun
  ne_unreadable := nofun

theorem isToken_encodeText (t rest : Text) :
    IsToken (encodeText t) (.quoted (joined t)) rest where
  head := ⟨'"', rfl, rfl⟩
  read _ := readFirst_encodeText t
  ne_finish := nofun
  ne_unreadable := nofun

def signs : List (CodePoint × Token) :=
  [('[', .openBracket), (']', .closeBracket), ('{', .openBrace), ('}', .closeBrace),
    (',', .comma), (':', .colon)]

theorem isToken_sign (c : CodePoint) (token : Token) (h : (c, token) ∈ signs)
    (rest : Text) :
    IsToken [c] token rest := by
  simp only [signs, List.mem_cons, Prod.mk.injEq, List.not_mem_nil, or_false] at h
  rcases h with ⟨rfl, rfl⟩ | ⟨rfl, rfl⟩ | ⟨rfl, rfl⟩ | ⟨rfl, rfl⟩ |
    ⟨rfl, rfl⟩ | ⟨rfl, rfl⟩
  all_goals exact ⟨⟨_, rfl, rfl⟩, fun _ => rfl, nofun, nofun⟩

end Tokens

/-- Whether a value must come inside arrays and objects. -/
def ExpectsValue (decoder : Decoder) (frames : List Frame) : Prop :=
  decoder = ⟨frames, .value⟩ ∨ decoder = ⟨frames, .valueOrEnd⟩

/-- A token that does not end an array is taken as a value where one must come. -/
theorem ExpectsValue.step (h : ExpectsValue decoder frames) (position : Nat)
    (token : Token) (htoken : token ≠ .closeBracket) :
    decoder.step position token = takeValue frames position token := by
  rcases h with rfl | rfl
  · rfl
  · unfold step
    split <;> simp_all

end Decoder

open Decoder

/-- Whether a text is read as a value that lies inside a number of arrays and
objects, wherever a value must come there. -/
def IsReadBack (depth : Nat) (text : Text) (value : Json) : Prop :=
  ∀ frames decoder spaces rest, frames.length = depth → ExpectsValue decoder frames →
    IsSpacing spaces → EndsNumber rest →
      Advances decoder (spaces ++ (text ++ rest)) (complete frames value) rest

/-- A token that is a value on its own is read back. -/
theorem isReadBack_of_token {depth : Nat} {text : Text} {token : Token}
    {value : Json} (htoken : ∀ rest, EndsNumber rest → IsToken text token rest)
    (hvalue : token = .atom value ∨ ∃ t, token = .quoted t ∧ value = .text t) :
    IsReadBack depth text value := by
  intro frames decoder spaces rest _ hdecoder hspaces hrest
  refine advances_of_token hspaces (htoken rest hrest) fun position => ?_
  have hclose : token ≠ .closeBracket := by
    rcases hvalue with rfl | ⟨t, rfl, rfl⟩ <;> exact nofun
  rw [hdecoder.step position token hclose]
  rcases hvalue with rfl | ⟨t, rfl, rfl⟩ <;> rfl

section Separated

variable {depth : Nat} {frames outer : List Frame} {decoder : Decoder}
  {spaces gap last rest : Text}

theorem isSpacing_nil : IsSpacing [] := List.forall_mem_nil _

theorem endsNumber_spacing (hspaces : IsSpacing spaces) (hrest : EndsNumber rest) :
    EndsNumber (spaces ++ rest) := by
  cases spaces with
  | nil => exact hrest
  | cons c spaces =>
      have hc := hspaces c List.mem_cons_self
      simp only [isSpace, Bool.or_eq_true, beq_iff_eq] at hc
      rcases hc with ((rfl | rfl) | rfl) | rfl <;>
        exact endsNumber_cons rfl (by decide) _

/-- Behind an item a comma leads to the next one. -/
theorem advances_comma_item {items : List Json} :
    Advances ⟨.array items :: outer, .separator⟩ (',' :: rest)
      ⟨.array items :: outer, .value⟩ rest :=
  advances_of_token isSpacing_nil
    (isToken_sign ',' .comma (by simp [signs]) rest) fun _ => rfl

/-- The items of an array up to its end. -/
theorem advances_items {text : Text} {value : Json} {texts : List Text}
    {values : List Json}
    (htexts : List.Forall₂ (IsReadBack depth) (text :: texts) (value :: values))
    (before : List Json) (rest : Text) (hdepth : outer.length + 1 = depth)
    (hdecoder : ExpectsValue decoder (.array before :: outer))
    (hspaces : IsSpacing spaces) (hgap : IsSpacing gap) (hlast : IsSpacing last) :
    Advances decoder (spaces ++
      (joinWith (.char ',' :: gap) (text :: texts) ++ (last ++ .char ']' :: rest)))
      (complete outer (.array (before.reverse ++ value :: values))) rest := by
  induction texts generalizing text value values before decoder spaces with
  | nil =>
      obtain ⟨htext, hnil⟩ := List.forall₂_cons.mp htexts
      obtain rfl := List.forall₂_nil_left_iff.mp hnil
      have hends : EndsNumber (last ++ .char ']' :: rest) :=
        endsNumber_spacing hlast (endsNumber_cons rfl (by decide) _)
      have hitem := htext (.array before :: outer) decoder spaces _
        (by simpa using hdepth) hdecoder hspaces hends
      refine hitem.trans (advances_of_token hlast
        (isToken_sign (.char ']') .closeBracket (by simp [signs]) rest) ?_)
      intro position
      simp [complete, step, takeSeparator]
  | cons next texts ih =>
      cases values with
      | nil => simp at htexts
      | cons following values =>
          obtain ⟨htext, hrest⟩ := List.forall₂_cons.mp htexts
          have hjoin : joinWith (.char ',' :: gap) (text :: next :: texts) ++
              (last ++ .char ']' :: rest) =
              text ++ (.char ',' :: (gap ++ (joinWith (.char ',' :: gap)
                (next :: texts) ++ (last ++ .char ']' :: rest)))) := by
            simp [joinWith]
          have hitem (after : Text) :=
            htext (.array before :: outer) decoder spaces (',' :: after)
              (by simpa using hdepth) hdecoder hspaces
                (endsNumber_cons rfl (by decide) after)
          have hothers := ih hrest (value :: before) (.inl rfl) hgap
          rw [hjoin]
          refine (hitem _).trans (advances_comma_item.trans ?_)
          simpa using hothers

/-- Behind a member a comma leads to the next one. -/
theorem advances_comma_member {members : List (Text × Json)} {key : Text} :
    Advances ⟨.object members key :: outer, .separator⟩ (',' :: rest)
      ⟨outer, .key members⟩ rest :=
  advances_of_token isSpacing_nil
    (isToken_sign ',' .comma (by simp [signs]) rest) fun _ => rfl

/-- Whether a text is read as a member whose value lies inside a number of
arrays and objects. -/
def IsMemberReadBack (depth : Nat) (text : Text) (member : Text × Json) : Prop :=
  ∃ t spaces value, text = encodeText t ++ .char ':' :: (spaces ++ value) ∧
    IsSpacing spaces ∧ member.1 = joined t ∧ IsReadBack depth value member.2

/-- Whether a key of an object with these members must come inside arrays and
objects. -/
def ExpectsKey (decoder : Decoder) (frames : List Frame)
    (members : List (Text × Json)) : Prop :=
  decoder = ⟨frames, .key members⟩ ∨ members = [] ∧ decoder = ⟨frames, .keyOrEnd⟩

/-- One member of an object. -/
theorem advances_member {text : Text} {member : Text × Json}
    (htext : IsMemberReadBack depth text member) {before : List (Text × Json)}
    (rest : Text) (hdepth : outer.length + 1 = depth)
    (hdecoder : ExpectsKey decoder outer before) (hspaces : IsSpacing spaces)
    (hrest : EndsNumber rest) :
    Advances decoder (spaces ++ (text ++ rest))
      ⟨.object (Entries.put before member.1 member.2) member.1 :: outer,
        .separator⟩ rest := by
  obtain ⟨t, inside, written, rfl, hinside, hkey, hvalue⟩ := htext
  have hstep : ∀ position, decoder.step position (.quoted (joined t)) =
      .ok ⟨outer, .colon before (joined t)⟩ := by
    intro position
    rcases hdecoder with rfl | ⟨rfl, rfl⟩ <;> rfl
  have hquoted := advances_of_token hspaces
    (isToken_encodeText t (':' :: (inside ++ (written ++ rest)))) hstep
  have hcolon : Advances ⟨outer, .colon before (joined t)⟩
      (':' :: (inside ++ (written ++ rest)))
      ⟨.object before (joined t) :: outer, .value⟩ (inside ++ (written ++ rest)) :=
    advances_of_token isSpacing_nil
      (isToken_sign ':' .colon (by simp [signs]) _) fun _ => rfl
  have hlast := hvalue (.object before (joined t) :: outer) _ inside rest
    (by simpa using hdepth) (.inl rfl) hinside hrest
  have hinput :
      spaces ++ (encodeText t ++ .char ':' :: (inside ++ written) ++ rest) =
      spaces ++ (encodeText t ++ .char ':' :: (inside ++ (written ++ rest))) := by
    simp
  rw [hinput, hkey]
  exact hquoted.trans (hcolon.trans hlast)

/-- The members of an object up to its end. -/
theorem advances_members {text : Text} {member : Text × Json} {texts : List Text}
    {members : List (Text × Json)}
    (htexts : List.Forall₂ (IsMemberReadBack depth) (text :: texts)
      (member :: members))
    (before : List (Text × Json)) (rest : Text) (hdepth : outer.length + 1 = depth)
    (hdecoder : ExpectsKey decoder outer before) (hspaces : IsSpacing spaces)
    (hgap : IsSpacing gap) (hlast : IsSpacing last) :
    Advances decoder (spaces ++
      (joinWith (.char ',' :: gap) (text :: texts) ++ (last ++ .char '}' :: rest)))
      (complete outer (.object (Entries.putAll before (member :: members))))
        rest := by
  induction texts generalizing text member members before decoder spaces with
  | nil =>
      obtain ⟨htext, hnil⟩ := List.forall₂_cons.mp htexts
      obtain rfl := List.forall₂_nil_left_iff.mp hnil
      have hends : EndsNumber (last ++ .char '}' :: rest) :=
        endsNumber_spacing hlast (endsNumber_cons (c := '}') rfl (by decide) _)
      have hmember := advances_member htext _ hdepth hdecoder hspaces hends
      exact hmember.trans (advances_of_token hlast
        (isToken_sign '}' .closeBrace (by simp [signs]) rest) fun _ => rfl)
  | cons next texts ih =>
      cases members with
      | nil => simp at htexts
      | cons following members =>
          obtain ⟨htext, hrest⟩ := List.forall₂_cons.mp htexts
          have hjoin : joinWith (.char ',' :: gap) (text :: next :: texts) ++
              (last ++ .char '}' :: rest) =
              text ++ (.char ',' :: (gap ++ (joinWith (.char ',' :: gap)
                (next :: texts) ++ (last ++ .char '}' :: rest)))) := by
            simp [joinWith]
          have hmember (after : Text) :=
            advances_member htext (',' :: after) hdepth hdecoder hspaces
              (endsNumber_cons rfl (by decide) after)
          have hothers :=
            ih hrest (Entries.put before member.1 member.2) (.inl rfl) hgap
          rw [hjoin]
          exact (hmember _).trans (advances_comma_member.trans hothers)

theorem isSpacing_lineBreak (level : Nat) : IsSpacing (lineBreak level) := by
  intro c hc
  rcases List.mem_cons.mp hc with rfl | hspace
  · rfl
  · rw [List.eq_of_mem_replicate hspace]
    rfl

variable {level : Nat} {texts : List Text}

theorem block_cons_append (first last : CodePoint) (text : Text) (rest : Text) :
    block level first last (text :: texts) ++ rest =
      [first] ++ (lineBreak (level + 1) ++
        (joinWith (.char ',' :: lineBreak (level + 1)) (text :: texts) ++
        (lineBreak level ++ last :: rest))) := by
  simp [block]

/-- An array is read back if its items are and it does not lie too deep. -/
theorem isReadBack_array {values : List Json}
    (htexts : List.Forall₂ (IsReadBack (depth + 1)) texts values)
    (hdepth : depth < depthLimit) :
    IsReadBack depth (block level '[' ']' texts) (.array values) := by
  intro frames decoder spaces rest hframes hdecoder hspaces _
  have hopen (after : Text) :
      Advances decoder (spaces ++ ([.char '['] ++ after))
        ⟨.array [] :: frames, .valueOrEnd⟩ after := by
    refine advances_of_token hspaces
      (isToken_sign '[' .openBracket (by simp [signs]) after) fun position => ?_
    rw [hdecoder.step position .openBracket (by simp), takeValue, goInto,
      if_neg (by omega), if_pos rfl]
  cases htexts with
  | nil =>
      exact (hopen (']' :: rest)).trans (advances_of_token isSpacing_nil
        (isToken_sign ']' .closeBracket (by simp [signs]) rest) fun _ => rfl)
  | cons htext hothers =>
      rw [block_cons_append]
      have hdeeper : frames.length + 1 = depth + 1 := by rw [hframes]
      have hitems := advances_items (.cons htext hothers) [] rest hdeeper (.inr rfl)
        (isSpacing_lineBreak (level + 1)) (isSpacing_lineBreak (level + 1))
          (isSpacing_lineBreak level)
      exact (hopen _).trans hitems

/-- An object is read back if its members are and it does not lie too deep. -/
theorem isReadBack_object {members : List (Text × Json)}
    (htexts : List.Forall₂ (IsMemberReadBack (depth + 1)) texts members)
    (hdepth : depth < depthLimit) :
    IsReadBack depth (block level '{' '}' texts)
      (.object (Entries.ofPairs members)) := by
  intro frames decoder spaces rest hframes hdecoder hspaces _
  have hopen (after : Text) :
      Advances decoder (spaces ++ ([.char '{'] ++ after))
        ⟨frames, .keyOrEnd⟩ after := by
    refine advances_of_token hspaces
      (isToken_sign '{' .openBrace (by simp [signs]) after) fun position => ?_
    rw [hdecoder.step position .openBrace (by simp), takeValue, goInto,
      if_neg (by omega), if_neg (by simp)]
  cases htexts with
  | nil =>
      exact (hopen ('}' :: rest)).trans (advances_of_token isSpacing_nil
        (isToken_sign '}' .closeBrace (by simp [signs]) rest) fun _ => rfl)
  | cons htext hothers =>
      rw [block_cons_append]
      have hdeeper : frames.length + 1 = depth + 1 := by rw [hframes]
      have hmembers := advances_members (.cons htext hothers) [] rest hdeeper
        (.inr ⟨rfl, rfl⟩) (isSpacing_lineBreak (level + 1))
          (isSpacing_lineBreak (level + 1))
        (isSpacing_lineBreak level)
      exact (hopen _).trans hmembers

end Separated

mutual

/-- A value without a fault is read back from its lines. -/
theorem isReadBack_indented (level depth : Nat) (json : Json)
    (h : encodeFault? depth json = none) :
    IsReadBack depth (indented level json) (reread json) :=
  match json with
  | .null => isReadBack_of_token (fun rest _ => isToken_null rest) (.inl rfl)
  | .bool b => isReadBack_of_token (fun rest _ => isToken_bool b rest) (.inl rfl)
  | .int n => by
      have hdigits : (Text.ofNat n.natAbs).length ≤ digitLimit := by
        simpa [encodeFault?] using h
      exact isReadBack_of_token
        (fun _ hrest => isToken_ofInt hdigits hrest) (.inl rfl)
  | .float x =>
      isReadBack_of_token (fun _ hrest => isToken_encodeFloat x hrest) (.inl rfl)
  | .text t => isReadBack_of_token (fun rest _ =>
      isToken_encodeText t rest) (.inr ⟨_, rfl, rfl⟩)
  | .array items => by
      rw [encodeFault?] at h
      split at h
      · cases h
      · rename_i hdepth
        exact isReadBack_array (forall₂_indentedItems (level + 1)
          (depth + 1) items h) (Nat.not_le.mp hdepth)
  | .object members => by
      rw [encodeFault?] at h
      split at h
      · cases h
      · rename_i hdepth
        exact isReadBack_object
          (forall₂_indentedMembers (level + 1) (depth + 1) members h)
          (Nat.not_le.mp hdepth)

/-- Items without a fault are read back one by one. -/
theorem forall₂_indentedItems (level depth : Nat) (items : List Json)
    (h : itemsFault? depth items = none) :
    List.Forall₂ (IsReadBack depth) (indentedItems level items)
      (rereadItems items) :=
  match items with
  | [] => .nil
  | item :: rest => by
      rw [itemsFault?, Option.or_eq_none_iff] at h
      exact .cons (isReadBack_indented level depth item h.1)
        (forall₂_indentedItems level depth rest h.2)

/-- Members without a fault are read back one by one. -/
theorem forall₂_indentedMembers (level depth : Nat) (members : List (Text × Json))
    (h : membersFault? depth members = none) :
    List.Forall₂ (IsMemberReadBack depth) (indentedMembers level members)
      (rereadMembers members) :=
  match members with
  | [] => .nil
  | (key, value) :: rest => by
      rw [membersFault?, Option.or_eq_none_iff] at h
      have hmember : IsMemberReadBack depth
          (encodeText key ++ .char ':' :: .char ' ' :: indented level value)
          (joined key, reread value) :=
        ⟨key, [.char ' '], _, rfl, List.forall_mem_singleton.mpr rfl, rfl,
          isReadBack_indented level depth value h.1⟩
      exact .cons hmember (forall₂_indentedMembers level depth rest h.2)

end

section Plain

/-- The words of JSON are plain. -/
theorem isPlain_of_mem_words :
    ∀ word ∈ ["null".text, "true".text, "false".text], IsPlain word := by
  decide

theorem isPlain_joinWith {separator : Text} {texts : List Text}
    (hseparator : IsPlain separator) (htexts : ∀ text ∈ texts, IsPlain text) :
    IsPlain (joinWith separator texts) := by
  fun_induction joinWith separator texts with
  | case1 => exact isPlain_nil
  | case2 text => exact htexts text List.mem_cons_self
  | case3 text next rest ih =>
      obtain ⟨htext, hrest⟩ := List.forall_mem_cons.mp htexts
      exact (htext.append hseparator).append (ih hrest)

theorem isPlain_lineBreak (level : Nat) : IsPlain (lineBreak level) := by
  apply IsPlain.cons (by decide)
  intro c hc
  rw [List.eq_of_mem_replicate hc]
  decide

theorem isPlain_block {level : Nat} {first last : CodePoint} {texts : List Text}
    (hfirst : IsPlainChar first) (hlast : IsPlainChar last)
    (htexts : ∀ text ∈ texts, IsPlain text) :
    IsPlain (block level first last texts) := by
  have hend : IsPlain [last] := .cons hlast isPlain_nil
  have hseparator : IsPlain (',' :: lineBreak (level + 1)) :=
    .cons (by decide) (isPlain_lineBreak _)
  unfold block
  split
  · exact .cons hfirst hend
  · exact (((IsPlain.cons hfirst (isPlain_lineBreak _)).append
      (isPlain_joinWith hseparator htexts)).append
      (isPlain_lineBreak level)).append hend

end Plain

mutual

theorem isPlain_indented (level : Nat) (json : Json) :
    IsPlain (indented level json) :=
  match json with
  | .null => isPlain_of_mem_words _ (by simp [indented])
  | .bool b => isPlain_of_mem_words _ (by cases b <;> simp [indented])
  | .int n => isPlain_ofInt n
  | .float x => isPlain_encodeFloat x
  | .text t => isPlain_encodeText t
  | .array items =>
      isPlain_block (by decide) (by decide)
        (isPlain_of_mem_indentedItems (level + 1) items)
  | .object members =>
      isPlain_block (by decide) (by decide)
        (isPlain_of_mem_indentedMembers (level + 1) members)

theorem isPlain_of_mem_indentedItems (level : Nat) (items : List Json) :
    ∀ text ∈ indentedItems level items, IsPlain text :=
  match items with
  | [] => List.forall_mem_nil _
  | item :: rest =>
      List.forall_mem_cons.mpr
        ⟨isPlain_indented level item, isPlain_of_mem_indentedItems level rest⟩

theorem isPlain_of_mem_indentedMembers (level : Nat) (members : List (Text × Json)) :
    ∀ text ∈ indentedMembers level members, IsPlain text :=
  match members with
  | [] => List.forall_mem_nil _
  | (key, value) :: rest => by
      have hmember : IsPlain
          (encodeText key ++ .char ':' :: .char ' ' :: indented level value) :=
        (isPlain_encodeText key).append
          (.cons (by decide) (.cons (by decide) (isPlain_indented level value)))
      exact List.forall_mem_cons.mpr
        ⟨hmember, isPlain_of_mem_indentedMembers level rest⟩

end

/-- All that is written is printable ASCII and line feeds. -/
theorem isPlain_encode (json : Json) : IsPlain (encode json) :=
  isPlain_indented 0 json

/-- Behind a finished value there may be spaces. -/
theorem run_finish_spacing {spaces : Text} (hspaces : IsSpacing spaces)
    (value : Json) (position : Nat) :
    Decoder.run ⟨[], .finish value⟩ (lexFrom position spaces) =
      .ok ⟨[], .finish value⟩ := by
  have hdrop : spaces.dropWhile isSpace = [] := List.dropWhile_eq_nil_iff.mpr hspaces
  rw [lexFrom]
  simp only [hdrop]
  rfl

/-- A value without a fault is read back from what is written for it. -/
theorem decode_encode {json : Json} (h : encodeFault? 0 json = none) {spaces : Text}
    (hspaces : IsSpacing spaces) :
    decode (encode json ++ spaces) = .ok (reread json) := by
  have hends : EndsNumber spaces := by
    rw [← List.append_nil spaces]
    exact endsNumber_spacing hspaces endsNumber_nil
  obtain ⟨position, hrun⟩ :=
    isReadBack_indented 0 0 json h [] start [] spaces rfl (.inl rfl) isSpacing_nil
      hends 0
  have hmark : (encode json ++ spaces).head? ≠ some (.char '\ufeff') := by
    intro hmark
    rcases List.mem_append.mp (List.mem_of_mem_head? hmark) with hmem | hmem
    · have hplain := isPlain_encode json _ hmem
      revert hplain
      decide
    · have hspace := hspaces _ hmem
      cases hspace
  have hread : start.run (lex (encode json ++ spaces)) =
      .ok ⟨[], .finish (reread json)⟩ :=
    hrun.trans (run_finish_spacing hspaces _ position)
  rw [decode, if_neg hmark, hread]

end Json

end UtteranceTemplate
