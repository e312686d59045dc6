/-!
# The order of texts

Texts are ordered by their code points, as the bytes of their UTF-8 forms are. Letter case, language and
width play no part.
-/
namespace Xbase.Text

def order : List Char → List Char → Ordering
  | [], [] => .eq
  | [], _ :: _ => .lt
  | _ :: _, [] => .gt
  | a :: s, b :: t => (compare a.toNat b.toNat).then (order s t)

end Xbase.Text
