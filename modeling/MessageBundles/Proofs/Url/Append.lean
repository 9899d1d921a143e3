import Mathlib.Data.List.Basic
import Mathlib.Data.List.TakeWhile
import MessageBundles.Proofs.Results
import MessageBundles.Proofs.Text.Pieces
import MessageBundles.Url.Parser

/-
  Reading URLs, continued — what is written behind a text that ends in a slash

  A slash ends every part of a URL in front of the path, so what is written behind one belongs to the
  path, the query and the fragment. What is proved, for a text that ends in a slash:
    1. `splitScheme?_append` and `authority_append` — the scheme and the authority are read off the
       text alone.
    2. `pathFrom_append` — the path behind it goes on where the path of the text ends.
    3. `tailOf_append` — if the text has neither a query nor a fragment, these are read off what is
       written behind it.
-/

namespace MessageBundles.Url

open Text

/-! ## Texts that end in a slash -/

def EndsInSlash (cs : List Char) : Prop := cs.getLast? = some '/'

namespace EndsInSlash

variable {a b : List Char} {c : Char} {p : Char → Bool}

theorem ne_nil (h : EndsInSlash a) : a ≠ [] := by
  rintro rfl
  cases h

theorem mem (h : EndsInSlash a) : '/' ∈ a := List.mem_of_getLast? h

theorem head?_append (h : EndsInSlash a) (b : List Char) : (a ++ b).head? = a.head? :=
  List.head?_append_of_ne_nil a h.ne_nil

theorem of_append (h : EndsInSlash (a ++ b)) (hb : b ≠ []) : EndsInSlash b := by
  obtain ⟨c, hc⟩ := Option.isSome_iff_exists.mp (List.getLast?_isSome.mpr hb)
  rwa [EndsInSlash, List.getLast?_append, hc, Option.some_or, ← hc] at h

theorem of_cons (h : EndsInSlash (c :: a)) (hc : c ≠ '/') : EndsInSlash a := by
  cases a with
  | nil => exact absurd (Option.some.inj h) hc
  | cons d rest => exact of_append (a := [c]) h (List.cons_ne_nil d rest)

theorem not_all (h : EndsInSlash a) (hp : p '/' = false) : ¬ ∀ c ∈ a, p c = true := by
  intro hall
  rw [hall '/' h.mem] at hp
  cases hp

theorem dropWhile_ne_nil (h : EndsInSlash a) (hp : p '/' = false) : a.dropWhile p ≠ [] := by
  rw [Ne, List.dropWhile_eq_nil_iff]
  exact h.not_all hp

theorem dropWhile (h : EndsInSlash a) (hp : p '/' = false) : EndsInSlash (a.dropWhile p) := by
  apply of_append (a := a.takeWhile p) _ (h.dropWhile_ne_nil hp)
  rwa [List.takeWhile_append_dropWhile]

theorem dropWhile_append (h : EndsInSlash a) (hp : p '/' = false) (b : List Char) :
    (a ++ b).dropWhile p = a.dropWhile p ++ b := by
  rw [List.dropWhile_append, if_neg]
  rw [List.isEmpty_iff]
  exact h.dropWhile_ne_nil hp

theorem takeWhile_append (h : EndsInSlash a) (hp : p '/' = false) (b : List Char) :
    (a ++ b).takeWhile p = a.takeWhile p := by
  rw [List.takeWhile_append, if_neg]
  intro hlength
  have hall : a.takeWhile p = a := (List.takeWhile_prefix p).eq_of_length hlength
  exact h.not_all hp (List.takeWhile_eq_self_iff.mp hall)

theorem dropEndWhile_append (h : EndsInSlash a) (hp : p '/' = false) (b : List Char) :
    dropEndWhile p (a ++ b) = a ++ dropEndWhile p b := by
  obtain ⟨start, rfl⟩ := List.getLast?_eq_some_iff.mp h
  rw [List.append_assoc, List.singleton_append, dropEndWhile_append_cons hp]
  simp

theorem dropEndWhile_eq_self (h : EndsInSlash a) (hp : p '/' = false) : dropEndWhile p a = a := by
  have hself := h.dropEndWhile_append hp []
  rwa [List.append_nil, dropEndWhile_nil, List.append_nil] at hself

theorem filter (h : EndsInSlash a) (hp : p '/' = true) : EndsInSlash (a.filter p) := by
  obtain ⟨start, rfl⟩ := List.getLast?_eq_some_iff.mp h
  rw [EndsInSlash, List.filter_append, List.filter_cons_of_pos hp, List.filter_nil]
  exact List.getLast?_concat

end EndsInSlash

variable {a b : List Char} {scheme : List Char} {kind : SchemeKind}

/-! ## Schemes -/

/-- What is left of a text that others stand in front of. -/
def cleanEnd (cs : List Char) : List Char :=
  (dropEndWhile (·.toNat ≤ 0x20) cs).filter (fun c => c != '\t' && c != '\n' && c != '\x0d')

theorem clean_append (h : EndsInSlash a) (b : List Char) : clean (a ++ b) = clean a ++ cleanEnd b := by
  have hdrop := h.dropWhile (p := (·.toNat ≤ 0x20)) (by decide)
  rw [clean, clean, cleanEnd, trim, trim, h.dropWhile_append (by decide),
    hdrop.dropEndWhile_append (by decide), hdrop.dropEndWhile_eq_self (by decide), List.filter_append]

theorem clean_of_dot (h : b.head? = some '.') : clean b = cleanEnd b := by
  rw [clean, cleanEnd, trim, dropWhile_of_head?]
  intro c hc
  rw [h] at hc
  rw [← Option.some.inj hc]
  decide

theorem endsInSlash_clean (h : EndsInSlash a) : EndsInSlash (clean a) := by
  have hdrop := h.dropWhile (p := (·.toNat ≤ 0x20)) (by decide)
  rw [clean, trim, hdrop.dropEndWhile_eq_self (by decide)]
  exact hdrop.filter (by decide)

theorem splitScheme?_eq_some_iff {cs rest : List Char} :
    splitScheme? cs = some (scheme, rest) ↔
      cs.head?.any isLetter = true ∧ cs.dropWhile isSchemePart = ':' :: rest ∧
        (cs.takeWhile isSchemePart).map Char.toLower = scheme := by
  unfold splitScheme?
  split
  · rename_i hletter
    split
    · rename_i found hfound
      simp only [Option.some.injEq, Prod.mk.injEq, hletter, true_and, hfound, List.cons.injEq]
      exact and_comm
    · rename_i hnone
      simp only [reduceCtorEq, hletter, true_and, false_iff]
      exact fun h => hnone rest h.1
  · rename_i hletter
    simp [hletter]

/-- The scheme of a text that ends in a slash is read off the text alone. -/
theorem splitScheme?_append (h : EndsInSlash a) (b rest : List Char) :
    splitScheme? (a ++ b) = some (scheme, rest) ↔
      ∃ inner, splitScheme? a = some (scheme, inner) ∧ EndsInSlash inner ∧ rest = inner ++ b := by
  have hslash := h.dropWhile (p := isSchemePart) (by decide)
  simp only [splitScheme?_eq_some_iff, h.head?_append, h.dropWhile_append (p := isSchemePart) (by decide),
    h.takeWhile_append (p := isSchemePart) (by decide)]
  cases hdrop : a.dropWhile isSchemePart with
  | nil => exact absurd hdrop hslash.ne_nil
  | cons c inner =>
    rw [hdrop] at hslash
    simp only [List.cons_append, List.cons.injEq]
    constructor
    · rintro ⟨hletter, ⟨rfl, rfl⟩, hscheme⟩
      exact ⟨inner, ⟨hletter, ⟨rfl, rfl⟩, hscheme⟩, hslash.of_cons (by decide), rfl⟩
    · rintro ⟨_, ⟨hletter, ⟨rfl, rfl⟩, hscheme⟩, -, rfl⟩
      exact ⟨hletter, ⟨rfl, rfl⟩, hscheme⟩

/-! ## Authorities -/

theorem splitHost_append (kind : SchemeKind) (h : EndsInSlash a) (b : List Char) (inside : Bool) :
    splitHost kind inside (a ++ b) =
        ((splitHost kind inside a).1, (splitHost kind inside a).2 ++ b) ∧
      EndsInSlash (splitHost kind inside a).2 := by
  induction a generalizing inside with
  | nil => exact absurd rfl h.ne_nil
  | cons c rest ih =>
    rw [List.cons_append, splitHost, splitHost]
    by_cases hstop : (c == ':' && !inside || endsAuthority kind c) = true
    · rw [if_pos hstop, if_pos hstop]
      exact ⟨rfl, h⟩
    · rw [if_neg hstop, if_neg hstop]
      have hc : c ≠ '/' := by
        rintro rfl
        exact hstop (Bool.or_eq_true_iff.mpr (.inr rfl))
      obtain ⟨heq, hrest⟩ := ih (h.of_cons hc) (c == '[' || inside && c != ']')
      rw [heq]
      exact ⟨rfl, hrest⟩

theorem splitPort_append (h : EndsInSlash a) (b : List Char) :
    splitPort scheme (a ++ b) = (splitPort scheme a).map fun found => (found.1, found.2 ++ b) := by
  have hdrop := h.dropWhile (p := isDigit) (by decide)
  simp only [splitPort, h.dropWhile_append (p := isDigit) (by decide),
    h.takeWhile_append (p := isDigit) (by decide), hdrop.head?_append]
  split
  · rfl
  · split
    · rfl
    · rfl

/-- The host with its port, if there is one, and what follows them. -/
def portBehind (scheme : List Char) (host : Host) :
    List Char → Except ParseError (Host × Option Nat × List Char)
  | ':' :: rest =>
    if host = Host.empty then .error .emptyHost
    else (splitPort scheme rest).map fun found => (host, found.1, found.2)
  | rest => .ok (host, none, rest)

theorem hostAndPort_eq (scheme cs : List Char) :
    hostAndPort scheme cs =
      if (SchemeKind.of scheme).isKnown && (splitHost (SchemeKind.of scheme) false cs).1.isEmpty then
        .error .emptyHost
      else (if (SchemeKind.of scheme).isKnown then Host.parse (splitHost (SchemeKind.of scheme) false cs).1
          else Host.parsePlain (splitHost (SchemeKind.of scheme) false cs).1) >>= fun host =>
        portBehind scheme host (splitHost (SchemeKind.of scheme) false cs).2 := by
  simp only [hostAndPort]
  split
  · rfl
  · split
    -- The two readers of a host are followed by the same reader of a port.
    all_goals
      refine congrArg _ (funext fun host => ?_)
      split
      · rename_i rest hrest
        rw [hrest, portBehind]
        split
        · rfl
        · cases splitPort scheme rest <;> rfl
      · rename_i hnone
        rw [portBehind]
        · rfl
        · exact hnone

theorem portBehind_append (h : EndsInSlash a) (b : List Char) (host : Host) :
    portBehind scheme host (a ++ b) =
      (portBehind scheme host a).map fun found => (found.1, found.2.1, found.2.2 ++ b) := by
  cases a with
  | nil => exact absurd rfl h.ne_nil
  | cons c rest =>
    by_cases hc : c = ':'
    · subst hc
      simp only [List.cons_append, portBehind]
      split
      · rfl
      · rw [splitPort_append (h.of_cons (by decide))]
        cases splitPort scheme rest <;> rfl
    · have hnone : ∀ cs, portBehind scheme host (c :: cs) = .ok (host, none, c :: cs) := by
        intro cs
        rw [portBehind]
        intro rest heq
        exact hc (List.cons.inj heq).1
      rw [List.cons_append, hnone, hnone]
      rfl

theorem hostAndPort_append (h : EndsInSlash a) (b : List Char) :
    hostAndPort scheme (a ++ b) =
      (hostAndPort scheme a).map fun found => (found.1, found.2.1, found.2.2 ++ b) := by
  obtain ⟨hsplit, hslash⟩ := splitHost_append (SchemeKind.of scheme) h b false
  rw [hostAndPort_eq, hostAndPort_eq, hsplit]
  split
  · rfl
  · cases (if (SchemeKind.of scheme).isKnown then
        Host.parse (splitHost (SchemeKind.of scheme) false a).1
      else Host.parsePlain (splitHost (SchemeKind.of scheme) false a).1) with
    | error e => rfl
    | ok host => exact portBehind_append hslash b host

/-- The user of an authority and the at-sign behind it stand in front of the slash that ends it. -/
theorem user_length_lt (h : EndsInSlash a) (hat : '@' ∈ a.takeWhile (!endsAuthority kind ·)) :
    (((a.takeWhile (!endsAuthority kind ·)).reverse.dropWhile (· != '@')).tail.reverse).length + 1 <
      a.length := by
  have hregion : (a.takeWhile (!endsAuthority kind ·)).length < a.length := by
    refine lt_of_le_of_ne (List.takeWhile_prefix _).length_le ?_
    intro hlength
    have hall := List.takeWhile_eq_self_iff.mp ((List.takeWhile_prefix _).eq_of_length hlength)
    exact h.not_all rfl hall
  have hsign : ((a.takeWhile (!endsAuthority kind ·)).reverse.dropWhile (· != '@')) ≠ [] := by
    rw [Ne, List.dropWhile_eq_nil_iff]
    intro hall
    have := hall '@' (List.mem_reverse.mpr hat)
    simp at this
  have hle := (List.dropWhile_suffix (l := (a.takeWhile (!endsAuthority kind ·)).reverse)
    (· != '@')).length_le
  rw [List.length_reverse] at hle
  have hpos := List.length_pos_iff.mpr hsign
  rw [List.length_reverse, List.length_tail]
  omega

theorem splitUser?_append (h : EndsInSlash a) (b : List Char) :
    splitUser? kind (a ++ b) = (splitUser? kind a).map fun found => (found.1, found.2 ++ b) := by
  have htake := h.takeWhile_append (p := (!endsAuthority kind ·)) rfl b
  simp only [splitUser?, htake]
  split
  · rename_i hat
    have hlength := user_length_lt h hat
    rw [List.drop_append_of_le_length (by omega)]
    rfl
  · rfl

/-- An authority behind its user. -/
def withUser (user : List Char) (found : Host × Option Nat × List Char) :
    Except ParseError Authority :=
  let username := percentEncode userSet (user.takeWhile (· != ':'))
  let password := percentEncode userSet ((behind? ':' user).getD [])
  if found.1 = Host.empty ∧ ¬(username = [] ∧ password = []) then .error .emptyHost
  else .ok ⟨username, password, found.1, found.2.1, found.2.2⟩

theorem authority_eq (scheme cs : List Char) :
    authority scheme cs =
      match splitUser? (SchemeKind.of scheme) cs with
      | none => (hostAndPort scheme cs).map fun found => ⟨[], [], found.1, found.2.1, found.2.2⟩
      | some (user, behind) =>
        if user.isEmpty && behind.head?.any (endsAuthority (SchemeKind.of scheme)) then
          .error .emptyHost
        else hostAndPort scheme behind >>= withUser user := by
  simp only [authority]
  cases splitUser? (SchemeKind.of scheme) cs with
  | none => cases hostAndPort scheme cs <;> rfl
  | some found =>
    obtain ⟨user, behind⟩ := found
    simp only
    split
    · rfl
    · cases hostAndPort scheme behind with
      | error e => rfl
      | ok found =>
        show _ = withUser user found
        simp only [withUser]
        show (if _ then _ else _) = _
        split
        · rfl
        · rfl

theorem endsInSlash_splitUser? (h : EndsInSlash a) {user behind : List Char}
    (hsplit : splitUser? kind a = some (user, behind)) : EndsInSlash behind := by
  simp only [splitUser?] at hsplit
  split at hsplit
  · rename_i hat
    have hlength := user_length_lt h hat
    cases hsplit
    rw [EndsInSlash, List.getLast?_drop, if_neg (by omega)]
    exact h
  · cases hsplit

theorem withUser_append (user b : List Char) (found : Host × Option Nat × List Char) :
    withUser user (found.1, found.2.1, found.2.2 ++ b) =
      (withUser user found).map fun a => { a with rest := a.rest ++ b } := by
  unfold withUser
  simp only
  split
  · rfl
  · rfl

/-- What follows the authority goes on with what is written behind the text. -/
theorem authority_append (h : EndsInSlash a) (b : List Char) :
    authority scheme (a ++ b) =
      (authority scheme a).map fun found => { found with rest := found.rest ++ b } := by
  rw [authority_eq, authority_eq, splitUser?_append h]
  cases hsplit : splitUser? (SchemeKind.of scheme) a with
  | none =>
    show (hostAndPort scheme (a ++ b)).map _ = ((hostAndPort scheme a).map _).map _
    rw [hostAndPort_append h]
    cases hostAndPort scheme a <;> rfl
  | some found =>
    obtain ⟨user, behind⟩ := found
    have hbehind := endsInSlash_splitUser? h hsplit
    simp only [Option.map_some, hbehind.head?_append, hostAndPort_append hbehind]
    split
    · rfl
    · cases hostAndPort scheme behind with
      | error e => rfl
      | ok found => exact withUser_append user b found

theorem endsInSlash_splitPort (h : EndsInSlash a) {found : Option Nat × List Char}
    (hport : splitPort scheme a = .ok found) : EndsInSlash found.2 := by
  simp only [splitPort] at hport
  split at hport
  · cases hport
  · split at hport
    · cases hport
      exact h.dropWhile (by decide)
    · cases hport

theorem endsInSlash_portBehind (h : EndsInSlash a) {host : Host}
    {found : Host × Option Nat × List Char} (hport : portBehind scheme host a = .ok found) :
    EndsInSlash found.2.2 := by
  unfold portBehind at hport
  split at hport
  · rename_i rest
    split at hport
    · cases hport
    · obtain ⟨inner, hinner, rfl⟩ := map_eq_ok_iff.mp hport
      exact endsInSlash_splitPort (h.of_cons (by decide)) hinner
  · cases hport
    exact h

theorem endsInSlash_hostAndPort (h : EndsInSlash a) {found : Host × Option Nat × List Char}
    (hhost : hostAndPort scheme a = .ok found) : EndsInSlash found.2.2 := by
  obtain ⟨-, hslash⟩ := splitHost_append (SchemeKind.of scheme) h [] false
  rw [hostAndPort_eq] at hhost
  split at hhost
  · cases hhost
  · obtain ⟨host, -, hport⟩ := bind_eq_ok_iff.mp hhost
    exact endsInSlash_portBehind hslash hport

/-- What follows the authority ends where the text ends. -/
theorem endsInSlash_authority (h : EndsInSlash a) {found : Authority}
    (hauthority : authority scheme a = .ok found) : EndsInSlash found.rest := by
  rw [authority_eq] at hauthority
  cases hsplit : splitUser? (SchemeKind.of scheme) a with
  | none =>
    rw [hsplit] at hauthority
    obtain ⟨inner, hhost, rfl⟩ := map_eq_ok_iff.mp hauthority
    exact endsInSlash_hostAndPort h hhost
  | some inner =>
    obtain ⟨user, behind⟩ := inner
    rw [hsplit] at hauthority
    simp only at hauthority
    split at hauthority
    · cases hauthority
    · obtain ⟨place, hhost, huser⟩ := bind_eq_ok_iff.mp hauthority
      have hrest := endsInSlash_hostAndPort (endsInSlash_splitUser? h hsplit) hhost
      simp only [withUser] at huser
      split at huser
      · cases huser
      · cases huser
        exact hrest

/-! ## Paths -/

/-- A path with pieces carried out that are all followed by others. -/
def addFolders (kind : SchemeKind) (path pieces : List (List Char)) : List (List Char) :=
  pieces.foldl (fun path piece => addPiece kind path piece false) path

theorem addPieces_append (kind : SchemeKind) (path folders pieces : List (List Char))
    (hpieces : pieces ≠ []) :
    addPieces kind path (folders ++ pieces) = addPieces kind (addFolders kind path folders) pieces := by
  induction folders generalizing path with
  | nil => rfl
  | cons piece rest ih =>
    cases hrest : rest ++ pieces with
    | nil => exact absurd (List.append_eq_nil_iff.mp hrest).2 hpieces
    | cons next others =>
      rw [List.cons_append, hrest, addPieces, ← hrest, ih]
      rfl

/-- The pieces of two texts, the first of which ends in a slash. -/
theorem runs_append {p : Char → Bool} (h : a = [] ∨ EndsInSlash a) (hp : p '/' = true)
    (b : List Char) : runs p (a ++ b) = (runs p a).dropLast ++ runs p b := by
  rcases h with rfl | h
  · rfl
  · obtain ⟨start, rfl⟩ := List.getLast?_eq_some_iff.mp h
    have hstart := List.splitOnP_append_cons start [] hp
    rw [List.append_assoc, List.singleton_append, runs_eq_splitOnP, runs_eq_splitOnP,
      runs_eq_splitOnP, hstart, List.splitOnP_append_cons start b hp, List.splitOnP_nil,
      List.dropLast_concat]

/-- Whether a text has neither a query nor a fragment. -/
def Untailed (cs : List Char) : Prop := ∀ c ∈ cs, endsPath c = false

theorem untailed_takeWhile (h : Untailed a) (b : List Char) :
    (a ++ b).takeWhile (!endsPath ·) = a ++ b.takeWhile (!endsPath ·) := by
  apply List.takeWhile_append_of_pos
  intro c hc
  rw [h c hc]
  rfl

/-- The path behind a text goes on where the path of the text ends. -/
theorem pathFrom_append (h : a = [] ∨ EndsInSlash a) (hpath : Untailed a)
    (start : List (List Char)) (b : List Char) :
    pathFrom kind start (a ++ b) =
      pathFrom kind (addFolders kind start (runs (isSlash kind) a).dropLast) b := by
  unfold pathFrom pathPieces
  rw [untailed_takeWhile hpath, runs_append h rfl, addPieces_append _ _ _ _ (runs_ne_nil _ _)]

theorem pathFrom_nil (hkind : kind ≠ .file) (start : List (List Char)) :
    pathFrom kind start [] = .segments (start ++ [[]]) := by
  simp only [pathFrom, if_neg hkind]
  show Path.segments (addPiece kind start [] true) = _
  simp [addPiece, isUp, isHere, decodeDots, hkind, percentEncode]

/-! ## Queries and fragments -/

theorem behind?_eq_none_iff {mark : Char} : behind? mark a = none ↔ mark ∉ a := by
  have hall : a.dropWhile (· != mark) = [] ↔ mark ∉ a := by
    rw [List.dropWhile_eq_nil_iff]
    constructor
    · intro h hmem
      simpa using h mark hmem
    · intro h c hc
      exact bne_iff_ne.mpr fun heq => h (heq ▸ hc)
  rw [← hall]
  unfold behind?
  split
  · rename_i hnil
    simp [hnil]
  · rename_i hcons
    simp [hcons]

theorem behind?_append {mark : Char} (h : mark ∉ a) (b : List Char) :
    behind? mark (a ++ b) = behind? mark b := by
  have hdrop : (a ++ b).dropWhile (· != mark) = b.dropWhile (· != mark) := by
    apply List.dropWhile_append_of_pos
    intro c hc
    exact bne_iff_ne.mpr fun heq => h (heq ▸ hc)
  rw [behind?, behind?, hdrop]

theorem untailed_iff_not_mem : Untailed a ↔ '?' ∉ a ∧ '#' ∉ a := by
  constructor
  · intro h
    exact ⟨fun hmem => absurd (h '?' hmem) (by decide), fun hmem => absurd (h '#' hmem) (by decide)⟩
  · rintro ⟨hquery, hfragment⟩ c hc
    rw [endsPath, Bool.or_eq_false_iff, beq_eq_false_iff_ne, beq_eq_false_iff_ne]
    exact ⟨fun heq => hquery (heq ▸ hc), fun heq => hfragment (heq ▸ hc)⟩

theorem takeWhile_of_not_mem {mark : Char} (h : mark ∉ a) (b : List Char) :
    (a ++ b).takeWhile (· != mark) = a ++ b.takeWhile (· != mark) := by
  apply List.takeWhile_append_of_pos
  intro c hc
  exact bne_iff_ne.mpr fun heq => h (heq ▸ hc)

theorem tailOf_eq_none_iff : tailOf kind a = ⟨none, none⟩ ↔ Untailed a := by
  rw [untailed_iff_not_mem, tailOf, Tail.mk.injEq, Option.map_eq_none_iff, Option.map_eq_none_iff,
    behind?_eq_none_iff, behind?_eq_none_iff]
  constructor
  · rintro ⟨hquery, hfragment⟩
    have htake := takeWhile_of_not_mem hfragment []
    rw [List.append_nil, List.takeWhile_nil, List.append_nil] at htake
    rw [htake] at hquery
    exact ⟨hquery, hfragment⟩
  · rintro ⟨hquery, hfragment⟩
    exact ⟨fun hmem => hquery ((List.takeWhile_prefix _).subset hmem), hfragment⟩

theorem tailOf_append (h : Untailed a) (b : List Char) : tailOf kind (a ++ b) = tailOf kind b := by
  obtain ⟨hquery, hfragment⟩ := untailed_iff_not_mem.mp h
  rw [tailOf, tailOf, takeWhile_of_not_mem hfragment, behind?_append hquery,
    behind?_append hfragment]

/-! ## URLs -/

/-- The URL of an authority with a path and what follows the path. -/
def Authority.url (found : Authority) (scheme : List Char) (path : Path) (tail : Tail) : Url where
  scheme := scheme
  username := found.username
  password := found.password
  host := some found.host
  port := found.port
  path := path
  query := tail.query
  fragment := tail.fragment

/-- The folders a path is in that is written behind what follows an authority. -/
def foldersIn (kind : SchemeKind) (rest : List Char) : List (List Char) :=
  addFolders kind [] (runs (isSlash kind) (dropSlash kind rest)).dropLast

theorem behindSlashes_eq (scheme cs : List Char) :
    behindSlashes scheme cs = (authority scheme cs).map fun found =>
      found.url scheme (pathBehindHost (SchemeKind.of scheme) found.rest)
        (tailOf (SchemeKind.of scheme) found.rest) := by
  unfold behindSlashes
  cases authority scheme cs <;> rfl

theorem dropSlash_cases (kind : SchemeKind) (c : Char) (rest : List Char) :
    (∀ b, dropSlash kind (c :: rest ++ b) = rest ++ b) ∨
      (c ≠ '/' ∧ ∀ b, dropSlash kind (c :: rest ++ b) = c :: rest ++ b) := by
  cases hslash : isSlash kind c with
  | true => exact .inl fun b => by rw [List.cons_append, dropSlash, if_pos hslash]
  | false =>
    refine .inr ⟨?_, fun b => by rw [List.cons_append, dropSlash, if_neg (by simp [hslash])]⟩
    rintro rfl
    cases hslash

theorem pathBehindHost_append (h : EndsInSlash a) (hpath : Untailed a) (b : List Char) :
    pathBehindHost .hosted (a ++ b) = pathFrom .hosted (foldersIn .hosted a) b := by
  cases a with
  | nil => exact absurd rfl h.ne_nil
  | cons c rest =>
    have hother : ¬(SchemeKind.hosted = .other ∧ (c :: rest ++ b).head?.all endsPath = true) := by
      simp
    rw [pathBehindHost, if_neg hother]
    rcases dropSlash_cases .hosted c rest with hdrop | ⟨hc, hdrop⟩
    · have hends : rest = [] ∨ EndsInSlash rest := by
        cases rest with
        | nil => exact .inl rfl
        | cons d others => exact .inr (h.of_append (a := [c]) (List.cons_ne_nil d others))
      have hrest : Untailed rest := fun x hx => hpath x (List.mem_cons_of_mem c hx)
      have hself := hdrop []
      rw [List.append_nil, List.append_nil] at hself
      rw [hdrop, pathFrom_append hends hrest, foldersIn, hself]
    · have hself := hdrop []
      rw [List.append_nil] at hself
      rw [hdrop, pathFrom_append (.inr h) hpath, foldersIn, hself]

end MessageBundles.Url
