import MessageBundles.Bundle.Basic
import MessageBundles.Json.Reader
import MessageBundles.Json.Writer

/-
  Texts — an object of texts is read back from what is written of it

  The reader takes one character and then one token at a time, so a text that is put together from
  parts is read part by part: `Reads` says which tokens a part brings, whatever stands behind it. What
  is proved:
    1. `tokensFrom_escape` — an escaped character is read as the character, in front of anything.
    2. `reads_quote` — so a quoted text is one token, the text itself.
    3. `reads_indentedTexts` — the lines of an object are its names and messages and the marks between
       them.
    4. `foldlM_members` — these tokens put the members on top of those read before.
    5. `read?_indentedTexts` — so any list of texts is read back; of several at one name the last one
       counts.
    6. `read?_indentedTexts_of_enumerates` — so the entries of a bundle are read back as its messages,
       in whatever order they were written.
-/

namespace MessageBundles.Json

open Text

/-! ## Escapes -/

section Escapes
variable {c : Char} {acc rest : List Char}

theorem tokensFrom_cons {s t : Scan} {found : List Token} (h : s.next? c = some (t, found)) :
    tokensFrom s (c :: rest) = (tokensFrom t rest).map (found ++ ·) := by
  rw [tokensFrom, h]

theorem tokensFrom_cons_inside {s t : Scan} (h : s.next? c = some (t, [])) :
    tokensFrom s (c :: rest) = tokensFrom t rest := by
  rw [tokensFrom_cons h]
  simp

/-- The four digits of a character below the space. -/
theorem padded_control : ∀ n < 0x20,
    padded 16 4 n = ['0', '0', Nat.digitChar (n / 16), Nat.digitChar (n % 16)] ∧
      digitValue (Nat.digitChar (n / 16)) = some (n / 16) ∧
      digitValue (Nat.digitChar (n % 16)) = some (n % 16) := by
  decide

theorem tokensFrom_short {letter : Char} (hletter : letter ≠ 'u') (h : escaped? letter = some c) :
    tokensFrom (.text acc) ('\\' :: letter :: rest) = tokensFrom (.text (c :: acc)) rest := by
  have hbackslash : (Scan.text acc).next? '\\' = some (.escape acc, []) := rfl
  have hescaped : (Scan.escape acc).next? letter = some (.text (c :: acc), []) := by
    rw [Scan.next?, if_neg hletter, h]
    rfl
  rw [tokensFrom_cons_inside hbackslash, tokensFrom_cons_inside hescaped]

theorem tokensFrom_control (h : c.toNat < 0x20) :
    tokensFrom (.text acc) ('\\' :: 'u' :: (padded 16 4 c.toNat ++ rest)) =
      tokensFrom (.text (c :: acc)) rest := by
  obtain ⟨hpadded, hhigh, hlow⟩ := padded_control c.toNat h
  have hunit : Scan.ofUnit? acc none c.toNat = some (.text (c :: acc)) := by
    rw [Scan.ofUnit?, if_neg (by omega), if_neg (by omega), Char.ofNat_toNat]
  have hbackslash : (Scan.text acc).next? '\\' = some (.escape acc, []) := rfl
  have hletter : (Scan.escape acc).next? 'u' = some (.digits acc none 4 0, []) := rfl
  have hfirst : (Scan.digits acc none 4 0).next? '0' = some (.digits acc none 3 0, []) := rfl
  have hsecond : (Scan.digits acc none 3 0).next? '0' = some (.digits acc none 2 0, []) := rfl
  have hthird : (Scan.digits acc none 2 0).next? (Nat.digitChar (c.toNat / 16)) =
      some (.digits acc none 1 (c.toNat / 16), []) := by
    simp [Scan.next?, hhigh]
  have hfourth : (Scan.digits acc none 1 (c.toNat / 16)).next? (Nat.digitChar (c.toNat % 16)) =
      some (.text (c :: acc), []) := by
    simp [Scan.next?, hlow, Nat.div_add_mod', hunit]
  rw [hpadded]
  simp only [List.cons_append, List.nil_append]
  rw [tokensFrom_cons_inside hbackslash, tokensFrom_cons_inside hletter,
    tokensFrom_cons_inside hfirst, tokensFrom_cons_inside hsecond, tokensFrom_cons_inside hthird,
    tokensFrom_cons_inside hfourth]

theorem tokensFrom_escape (c : Char) (acc rest : List Char) :
    tokensFrom (.text acc) (escape c ++ rest) = tokensFrom (.text (c :: acc)) rest := by
  unfold escape
  -- Seven characters have an escape of one letter.
  iterate 7
    split
    · rename_i hc
      subst hc
      exact tokensFrom_short (by decide) (by decide)
  split
  · exact tokensFrom_control ‹_›
  · have hplain : (Scan.text acc).next? c = some (.text (c :: acc), []) := by
      simp [Scan.next?, *]
    exact tokensFrom_cons_inside hplain

theorem tokensFrom_flatMap_escape (cs acc rest : List Char) :
    tokensFrom (.text acc) (cs.flatMap escape ++ rest) =
      tokensFrom (.text (cs.reverse ++ acc)) rest := by
  induction cs generalizing acc with
  | nil => rfl
  | cons c cs ih =>
    rw [List.flatMap_cons, List.append_assoc, tokensFrom_escape, ih, List.reverse_cons,
      List.append_assoc]
    rfl

end Escapes

/-! ## From characters to tokens -/

/-- Some characters are read as some tokens, whatever stands behind them. -/
def Reads (cs : List Char) (ts : List Token) : Prop :=
  ∀ rest, tokensFrom .between (cs ++ rest) = (tokensFrom .between rest).map (ts ++ ·)

section Reading
variable {a b : List Char} {s t : List Token}

theorem Reads.append (ha : Reads a s) (hb : Reads b t) : Reads (a ++ b) (s ++ t) := by
  intro rest
  rw [List.append_assoc, ha, hb, Option.map_map]
  congr 1
  funext found
  exact (List.append_assoc s t found).symm

theorem Reads.tokensFrom (h : Reads a s) : Json.tokensFrom .between a = some s := by
  have := h []
  rw [List.append_nil] at this
  rw [this, Json.tokensFrom, Option.map_some, List.append_nil]

theorem reads_open {c : Char} {found : List Token} (h : Scan.open? c = some (.between, found)) :
    Reads [c] found :=
  fun _ => tokensFrom_cons h

theorem reads_quote (text : String) : Reads (quote text) [.text text] := by
  intro rest
  have hopen : Scan.between.next? '\x22' = some (.text [], []) := rfl
  have hclose : ∀ acc, (Scan.text acc).next? '\x22' =
      some (.between, [.text (String.ofList acc.reverse)]) := fun _ => rfl
  rw [quote, List.cons_append, tokensFrom_cons_inside hopen, List.append_assoc,
    tokensFrom_flatMap_escape, List.singleton_append, tokensFrom_cons (hclose _), List.append_nil,
    List.reverse_reverse, String.ofList_toList]

theorem reads_flatMap {α : Type} {f : α → List Char} {g : α → List Token}
    (h : ∀ x, Reads (f x) (g x)) (l : List α) : Reads (l.flatMap f) (l.flatMap g) := by
  induction l with
  | nil =>
    intro rest
    simp
  | cons x l ih => exact (h x).append ih

end Reading

/-! ## Lines -/

/-- The line of a member, without what ends it. -/
def memberLine (e : String × String) : List Char :=
  ' ' :: ' ' :: (quote e.1 ++ ':' :: ' ' :: quote e.2)

def memberTokens (e : String × String) : List Token := [.text e.1, .mark ':', .text e.2]

theorem reads_memberLine (e : String × String) : Reads (memberLine e) (memberTokens e) := by
  have hblank : Reads [' '] [] := reads_open rfl
  have hcolon : Reads [':'] [.mark ':'] := reads_open rfl
  exact hblank.append (hblank.append ((reads_quote e.1).append
    (hcolon.append (hblank.append (reads_quote e.2)))))

theorem foldl_append_eq_append_flatMap {α β : Type} (f : α → List β) (start : List β) (l : List α) :
    l.foldl (fun out x => out ++ f x) start = start ++ l.flatMap f := by
  induction l generalizing start with
  | nil => simp
  | cons x l ih => rw [List.foldl_cons, ih, List.flatMap_cons, List.append_assoc]

/-- The lines of an object are the tokens of its members and the marks between them. -/
theorem reads_indentedTexts (e : String × String) (l : List (String × String)) :
    Reads (indentedTexts (e :: l)) (.mark '\x7b' :: (memberTokens e ++
      l.flatMap (fun e => .mark ',' :: memberTokens e) ++ [.mark '\x7d'])) := by
  have hopen : Reads ['\x7b'] [.mark '\x7b'] := reads_open rfl
  have hclose : Reads ['\x7d'] [.mark '\x7d'] := reads_open rfl
  have hcomma : Reads [','] [.mark ','] := reads_open rfl
  have hbreak : Reads ['\n'] [] := reads_open rfl
  have hrest := reads_flatMap (fun e => hcomma.append (hbreak.append (reads_memberLine e))) l
  have hlines := ((reads_memberLine e).append hrest).append (hbreak.append hclose)
  rw [← foldl_append_eq_append_flatMap] at hlines
  exact hopen.append (hbreak.append hlines)

/-! ## From tokens to a value -/

def memberOf (e : String × String) : String × Json := (e.1, .string e.2)

theorem foldlM_append_of_eq_some {a b : List Token} {s t : State}
    (h : a.foldlM State.next? s = some t) :
    (a ++ b).foldlM State.next? s = b.foldlM State.next? t := by
  rw [List.foldlM_append, h, Option.bind_eq_bind, Option.bind_some]

/-- The tokens of further members put these on top of those read before. -/
theorem foldlM_members (stack : List Frame) (before : List (String × Json))
    (l : List (String × String)) :
    (l.flatMap fun e => .mark ',' :: memberTokens e).foldlM State.next? (.afterMember stack before) =
      some (.afterMember stack ((l.map memberOf).reverse ++ before)) := by
  induction l generalizing before with
  | nil => rfl
  | cons e l ih =>
    have hmember : (Token.mark ',' :: memberTokens e).foldlM State.next? (.afterMember stack before) =
        some (.afterMember stack (memberOf e :: before)) := rfl
    rw [List.flatMap_cons, foldlM_append_of_eq_some hmember, ih, List.map_cons, List.reverse_cons,
      List.append_assoc, List.singleton_append]

/-- An object of texts is read back from its lines. Of several texts at one name the last one counts. -/
theorem read?_indentedTexts (l : List (String × String)) :
    read? (String.ofList (indentedTexts l ++ ['\n'])) =
      some (.object (Dict.ofList (l.map memberOf)).entries) := by
  cases l with
  | nil => rfl
  | cons e l =>
    have hbreak : Reads ['\n'] [] := reads_open rfl
    have htokens := ((reads_indentedTexts e l).append hbreak).tokensFrom
    have hfirst : (Token.mark '\x7b' :: memberTokens e).foldlM State.next? (.value []) =
        some (.afterMember [] [memberOf e]) := rfl
    have hlast : ∀ members, [Token.mark '\x7d'].foldlM State.next? (.afterMember [] members) =
        some (.finished (ofMembers members)) := fun _ => rfl
    have hvalue : (Token.mark '\x7b' :: (memberTokens e ++
        l.flatMap (fun e => .mark ',' :: memberTokens e) ++ [.mark '\x7d'])).foldlM State.next?
          (.value []) = some (.finished (ofMembers ((l.map memberOf).reverse ++ [memberOf e]))) := by
      rw [← List.cons_append, ← List.cons_append, List.append_assoc,
        foldlM_append_of_eq_some hfirst, foldlM_append_of_eq_some (foldlM_members [] _ l), hlast]
    rw [read?, String.toList_ofList, htokens, Option.bind_eq_bind, Option.bind_some, List.append_nil,
      hvalue, Option.bind_eq_bind, Option.bind_some, ofMembers, List.reverse_append,
      List.reverse_reverse]
    rfl

/-- The entries of a bundle are read back as its messages, in whatever order they were written. -/
theorem read?_indentedTexts_of_enumerates {l : List (String × String)} {b : Bundle}
    (h : Bundle.Enumerates l b) :
    read? (String.ofList (indentedTexts l ++ ['\n'])) =
      some (.object (b.entries.map memberOf)) := by
  have hperm : (b.entries.map memberOf).Perm (l.map memberOf) :=
    (Bundle.enumerates_iff_perm.mp h).symm.map memberOf
  have hsorted : (b.entries.map memberOf).Pairwise fun x y => x.1 < y.1 :=
    List.pairwise_map.mpr b.messages.sorted
  have hmembers : Dict.ofList (b.entries.map memberOf) = ⟨_, hsorted⟩ :=
    Dict.ofList_entries ⟨_, hsorted⟩
  have hdifferent := Dict.pairwise_ne ⟨_, hsorted⟩
  rw [read?_indentedTexts, ← Dict.ofList_of_perm hperm hdifferent, hmembers]

example : read? (String.ofList (indentedTexts [("b", "\x22\n"), ("a", "="), ("b", "\u0001")])) =
    some (.object [("a", .string "="), ("b", .string "\u0001")]) := by decide +kernel

end MessageBundles.Json
