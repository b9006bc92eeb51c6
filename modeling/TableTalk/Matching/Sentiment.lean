import TableTalk.Filter
import TableTalk.Matching.Vocabulary

/-!
# Sentiment as a comparison

Blame asks for low ratings and praise for high ones.
-/

namespace TableTalk.Matching.Sentiment

/-- The comparison that a sentiment asks of a rating. -/
def operator : Sentiment → Operator
  | negative => .le
  | positive => .ge

/-- The rating with which it is compared. -/
def threshold : Sentiment → Float
  | negative => 2.0
  | positive => 4.0

end TableTalk.Matching.Sentiment
