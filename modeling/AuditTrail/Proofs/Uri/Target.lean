import AuditTrail.Proofs.Uri.Escape

/-! Reading an address undoes writing it. A `Reference` is an address in its parts, each free of
the marks that would end it early, and `text` joins them. Each cut of `Target.cut?` has a lemma
that says where the parts put its mark. -/
namespace AuditTrail.Uri

def Free (marks : List Char) (text : String) : Prop := ∀ mark ∈ marks, mark ∉ text.toList

instance (marks : List Char) (text : String) : Decidable (Free marks text) :=
  List.decidableBAll (· ∉ text.toList) marks

theorem Free.mono {marks more : List Char} {text : String} (free : Free more text)
    (fewer : marks ⊆ more) : Free marks text :=
  fun mark member => free mark (fewer member)

/-- An optional part of an address with the mark in front of it. -/
def marked (mark : String) : Option String → String
  | none => ""
  | some part => mark ++ part

structure Reference where
  user : Option String
  /-- The host, with its port if there is one. -/
  host : String
  path : String
  query : Option String
  fragment : Option String
  user_free : ∀ part ∈ user, Free ['/', '?', '#'] part
  host_free : Free ['/', '?', '#', '@'] host
  path_free : Free ['?', '#'] path
  rooted : path = "" ∨ path.toList.head? = some '/'
  query_free : ∀ part ∈ query, Free ['#'] part

namespace Reference

def authority (r : Reference) : String :=
  match r.user with
  | none => r.host
  | some user => user ++ "@" ++ r.host

def tail (r : Reference) : String := marked "?" r.query ++ marked "#" r.fragment

def text (r : Reference) : String := "//" ++ r.authority ++ r.path ++ r.tail

end Reference

/-! ### The cuts -/

variable {mark : Char} {front back : List Char}

theorem before_append (free : mark ∉ front) : before mark (front ++ back) = front ++ before mark back := by
  apply List.takeWhile_append_of_pos
  intro c member
  simpa using ne_of_mem_of_not_mem member free

theorem after_append (free : mark ∉ front) : after mark (front ++ mark :: back) = back := by
  unfold after
  rw [List.dropWhile_append_of_pos]
  · simp
  · intro c member
    simpa using ne_of_mem_of_not_mem member free

theorem splitUser_append (front : List Char) (free : '@' ∉ back) :
    (splitUser (front ++ '@' :: back)).2 = back := by
  have all : ∀ c ∈ back.reverse, decide (c ≠ '@') = true := by
    intro c member
    simpa using ne_of_mem_of_not_mem (List.mem_reverse.1 member) free
  rw [splitUser, if_pos (by simp)]
  simp only [List.reverse_append, List.reverse_cons, List.append_assoc, List.singleton_append]
  rw [List.takeWhile_append_of_pos all]
  simp

theorem authorityAndPath_append (free : '/' ∉ front) (rooted : back = [] ∨ back.head? = some '/') :
    authorityAndPath ('/' :: '/' :: (front ++ back)) = (front, back) := by
  have all : ∀ c ∈ front, decide (c ≠ '/') = true := by
    intro c member
    simpa using ne_of_mem_of_not_mem member free
  simp only [authorityAndPath, List.takeWhile_append_of_pos all, List.dropWhile_append_of_pos all]
  rcases rooted with rfl | rooted
  · simp
  · obtain ⟨rest, rfl⟩ : ∃ rest, back = '/' :: rest := by
      cases back with
      | nil => cases rooted
      | cons c rest => exact ⟨rest, by simpa using rooted⟩
    simp

theorem authorityAndPath_path {text : List Char} (plain : ¬ ['/', '/'] <+: text) :
    authorityAndPath text = ([], text) := by
  unfold authorityAndPath
  split
  · exact absurd ⟨_, rfl⟩ plain
  · rfl

namespace Reference

/-- The parts before the query, whatever follows them. -/
theorem stem (r : Reference) (query : '?' ∉ front) (fragment : '#' ∉ front) :
    before '?' (before '#' (front ++ r.tail.toList)) = front := by
  rw [before_append fragment, before_append query]
  suffices before '?' (before '#' r.tail.toList) = [] by rw [this, List.append_nil]
  have free := r.query_free
  cases h : r.query with
  | none => cases g : r.fragment <;> simp [tail, marked, h, g, before]
  | some part =>
    have apart : '#' ∉ '?' :: part.toList := by simpa using free part h '#' (by simp)
    have split : r.tail.toList = ('?' :: part.toList) ++ (marked "#" r.fragment).toList := by
      simp [tail, marked, h]
    rw [split, before_append apart]
    simp [before]

theorem authority_free (r : Reference) : Free ['/', '?', '#'] r.authority := by
  intro mark member
  have host := r.host_free.mono (by simp) mark member
  cases h : r.user with
  | none => simpa [authority, h] using host
  | some user =>
    have apart : mark ≠ '@' := by rintro rfl; simp at member
    simpa [authority, h, apart, host] using r.user_free user h mark member

theorem host_of_authority (r : Reference) : (splitUser r.authority.toList).2 = r.host.toList := by
  have free : '@' ∉ r.host.toList := r.host_free '@' (by simp)
  cases h : r.user with
  | none => simp [authority, h, splitUser, free]
  | some user => simpa [authority, h] using splitUser_append user.toList free

def body (r : Reference) : List Char := '/' :: '/' :: (r.authority.toList ++ r.path.toList)

theorem body_free (r : Reference) (member : mark ∈ ['?', '#']) : mark ∉ r.body := by
  have authority := r.authority_free.mono (by simp) mark member
  have path := r.path_free mark member
  have apart : mark ≠ '/' := by rintro rfl; simp at member
  simp [body, apart, authority, path]

theorem cut_body (r : Reference) : authorityAndPath r.body = (r.authority.toList, r.path.toList) := by
  refine authorityAndPath_append (r.authority_free '/' (by simp)) ?_
  exact r.rooted.imp (fun empty => by simp [empty]) id

theorem toList_text (r : Reference) : r.text.toList = r.body ++ r.tail.toList := by
  simp [text, body]

end Reference

/-- An accepted address composed of its parts is read as its host and the decoded path. The scheme, the user,
the query and the fragment do not matter. -/
theorem target_composed (judge : String → Option Kind) (r : Reference) :
    (∀ decoded, decodePath? r.path = decoded ↔ Decodes r.path.toList decoded) ∧
    (∀ scheme, Free [':', '/', '?', '#'] scheme → judge (scheme ++ ":" ++ r.text) = some .absolute →
      targetBy? judge (scheme ++ ":" ++ r.text) = (decodePath? r.path).map (⟨r.host, ·⟩)) ∧
    (judge r.text = some .relative →
      targetBy? judge r.text = (decodePath? r.path).map (⟨r.host, ·⟩)) ∧
    (¬ ['/', '/'] <+: r.path.toList → judge (r.path ++ r.tail) = some .relative →
      targetBy? judge (r.path ++ r.tail) = (decodePath? r.path).map (⟨"", ·⟩)) := by
  refine ⟨decodePath?_eq_iff r.path, ?absolute, ?relative, ?path⟩
  case absolute =>
    intro scheme free accepted
    have colon : ':' ∉ scheme.toList := free ':' (by simp)
    have front : ∀ mark ∈ ['?', '#'], mark ∉ scheme.toList ++ ':' :: r.body := by
      intro mark member
      have outside := free.mono (by simp) mark member
      have apart : mark ≠ ':' := by rintro rfl; simp at member
      simp [outside, apart, r.body_free member]
    have same : (scheme ++ ":" ++ r.text).toList = (scheme.toList ++ ':' :: r.body) ++ r.tail.toList := by
      simp [r.toList_text]
    simp only [targetBy?, accepted, Target.cut?, same, r.stem (front '?' (by simp)) (front '#' (by simp)),
      if_true, after_append colon, r.cut_body, r.host_of_authority, String.ofList_toList]
  case relative =>
    intro accepted
    simp only [targetBy?, accepted, Target.cut?, r.toList_text, r.stem (r.body_free (by simp))
      (r.body_free (by simp)), Bool.false_eq_true, if_false, r.cut_body, r.host_of_authority,
      String.ofList_toList]
  case path =>
    intro plain accepted
    have stem := r.stem (r.path_free '?' (by simp)) (r.path_free '#' (by simp))
    simp only [targetBy?, accepted, Target.cut?, String.toList_append, stem, Bool.false_eq_true,
      if_false, authorityAndPath_path plain, String.ofList_toList]
    simp [splitUser]

def Reference.crowded : Reference where
  user := some "us:er@x"
  host := "[::1]:80"
  path := "/a%2Fb"
  query := some "q=@/"
  fragment := some "f?"
  user_free := by decide
  host_free := by decide
  path_free := by decide
  rooted := by decide
  query_free := by decide

theorem target_composed_crowded :
    kind? "http://us:er@x@[::1]:80/a%2Fb?q=@/#f?" = some .absolute ∧
      target? "http://us:er@x@[::1]:80/a%2Fb?q=@/#f?" = some ⟨"[::1]:80", "/a/b"⟩ ∧
    kind? "//us:er@x@[::1]:80/a%2Fb?q=@/#f?" = some .relative ∧
      target? "//us:er@x@[::1]:80/a%2Fb?q=@/#f?" = some ⟨"[::1]:80", "/a/b"⟩ ∧
    kind? "/a%2Fb?q=@/#f?" = some .relative ∧ target? "/a%2Fb?q=@/#f?" = some ⟨"", "/a/b"⟩ := by
  have decoded : decodePath? Reference.crowded.path = some "/a/b" := by decide +kernel
  have absolute : kind? ("http" ++ ":" ++ Reference.crowded.text) = some .absolute := by decide +kernel
  have relative : kind? Reference.crowded.text = some .relative := by decide +kernel
  have alone : kind? (Reference.crowded.path ++ Reference.crowded.tail) = some .relative := by
    decide +kernel
  have composed := target_composed kind? Reference.crowded
  rw [decoded] at composed
  exact ⟨absolute, composed.2.1 "http" (by decide) absolute, relative, composed.2.2.1 relative, alone,
    composed.2.2.2 (by decide) alone⟩

end AuditTrail.Uri
