import Casebook.Suite

/-! # The sample suite

    A suite that shows the three ways to write cases: combined steps, helpers
    that several cases share, and instructions that branch into different
    questions.
-/

namespace Casebook.Sample

variable {ρ : Type}

/-! ## Helpers -/

/-- The words that enter random credentials. -/
def enterCredentials : Text :=
  "Enter \"\x7b\x7brandom.email\x7d\x7d\" as the username and ".toList ++
  "\"\x7b\x7brandom.password\x7d\x7d\" as the password".toList

/-- Signs in with random credentials. -/
def signIn : Script ρ Unit :=
  Script.step <|
    "Click on the \"login\" button.
           ".toList ++ enterCredentials ++ ".
           Q: Are you signed in?".toList

/-- Opens the news feed. -/
def openNewsFeed : Script ρ Unit :=
  Script.step <|
    "Click on the tab that says \"News Feed\".
           Do you see a box labelled \"Test News Item\"?".toList

/-- What a search is to find. -/
inductive Expectation where
  /-- a number of results -/
  | count (n : Nat)
  /-- a result with a title -/
  | titled (title : Text)
  deriving DecidableEq, Repr

/-- The question that checks an expectation. -/
def Expectation.question : Expectation → Text
  | .count n => "Do you see exactly ".toList ++ Text.decimal n ++ " search results?".toList
  | .titled title => "Do you see a search result labelled \"".toList ++ title ++ "\"?".toList

/-- The instruction that searches for a term. -/
def searchInstruction (term : Text) : Text :=
  "Type \"".toList ++ term ++ "\" in the search bar and press Enter.".toList

/-- Searches for a term and asks for what is expected. -/
def search (term : Text) (expectation : Expectation) : Script ρ Unit := do
  Script.instruction (searchInstruction term)
  Script.question expectation.question

/-! ## Groups -/

/-- Cases with combined steps only. -/
def basicTest : Group ρ where
  name := "basic-test".toList
  submissions := [
    { id := "basic-test".toList
      metadata := Metadata.ofComment
        "
        // title: basic test case with no stubs
        // tags: login
        ".toList
      script := do
        Script.step
          "Click on the \"login\" button.
                   Do you see input fields for username and password?".toList
        Script.step <|
          enterCredentials ++ " and click Submit.
                   Do you see a banner that says \"Welcome\"?".toList }]

/-- Cases that share helpers. -/
def usingStubs : Group ρ where
  name := "using-stubs".toList
  submissions := [
    { id := "stubs-example-1".toList
      metadata := Metadata.ofComment
        "
        // title: simple test with one stub
        // tags: login, news-feed
        ".toList
      script := do
        signIn
        Script.step
          "Click on the tab that says \"News Feed\".
                   Do you see a box labelled \"Test News Item\"?".toList },
    { id := "stubs-example-2".toList
      metadata := Metadata.ofComment
        "
        // title: simple test with multiple stubs
        // tags: login, news-feed
        ".toList
      script := do
        signIn
        openNewsFeed }]

/-- Cases with split steps. -/
def separatingInstructionsAndQuestions : Group ρ where
  name := "separating-instructions-and-questions".toList
  submissions := [
    { id := "search-example-1".toList
      metadata := Metadata.ofComment
        "
        // title: search and open something
        // tags: search, view-content
        ".toList
      script := do
        signIn
        search "started".toList (.titled "Getting Started".toList)
        Script.step
          "Click on the box that says \"Getting Started\".
                   Do you see a popup that shows the Getting Started article?".toList },
    { id := "search-example-2".toList
      metadata := Metadata.ofComment
        "
        // title: search and delete something
        // tags: search, delete-content
        ".toList
      script := do
        signIn
        search "data".toList (.count 3)
        Script.step
          "Click on the delete icon next to one of the search results.
                 Did the result disappear?".toList }]

/-- The sample suite. -/
def suite : Suite ρ where
  groups := [basicTest, usingStubs, separatingInstructionsAndQuestions]

end Casebook.Sample
