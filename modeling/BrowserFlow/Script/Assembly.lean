import BrowserFlow.Flow.Order
import BrowserFlow.Script.Fragment
import BrowserFlow.Text.Replace

/-!
# Whole scripts

A script is a fixed preamble, the fragments of the steps two levels deep, and a
fixed epilogue that reports the outcome and releases the browser. The preamble
asks for a browser without a window; for one with a window that line is turned
into a comment and nothing else changes.
-/

namespace BrowserFlow

namespace Script

def headlessDirective : String := "options.add_argument('--headless')"

def disabledDirective : String := "# " ++ headlessDirective

/-- The depth of the steps, inside the test function and its guarded block. -/
def bodyDepth : Int := 2

/-- Imports, the test function and the set-up of the browser. -/
def preamble : List String := layOut 0 [
  .comment "Generated Selenium script",
  .blank,
  .comment "Setup",
  .line "import time",
  .blank,
  .line "from selenium import webdriver",
  .line "from selenium.webdriver.common.by import By",
  .line "from selenium.webdriver.support import expected_conditions as EC",
  .line "from selenium.webdriver.support.ui import Select, WebDriverWait",
  .blank,
  .blank,
  .line "def run_test():",
  .deeper,
  .line "driver = None",
  .blank,
  .line "try:",
  .deeper,
  .comment "Set up Chrome options",
  .line "options = webdriver.ChromeOptions()",
  .line headlessDirective,
  .blank,
  .comment "Build the driver",
  .line "driver = webdriver.Chrome(options=options)",
  .blank,
  .comment "Set implicit wait",
  .line "driver.implicitly_wait(10)",
  .blank,
  .comment "Test script begins"]

/-- The report of success, the report of failure and the release of the browser. -/
def epilogue : List String := layOut bodyDepth [
  .blank,
  .comment "Test script ends",
  .blank,
  .line "print('Test completed successfully')",
  .line "return \x7b'success': True\x7d",
  .shallower,
  .line "except Exception as error:",
  .deeper,
  .line "print(f'Test failed: \x7berror\x7d')",
  .line "return \x7b'success': False, 'error': str(error)\x7d",
  .shallower,
  .line "finally:",
  .deeper,
  .comment "Cleanup",
  .line "if driver is not None:",
  .deeper,
  .line "driver.quit()",
  .shallower,
  .shallower,
  .shallower,
  .blank,
  .blank,
  .line "if __name__ == '__main__':",
  .deeper,
  .line "run_test()"]

/-- The fragments of the steps, cut at newlines and indented. The newline that ends
a fragment ends its last line and begins none. -/
def body (nodes : List Node) : List String :=
  nodes.flatMap fun node => (lines (unlines node.fragmentLines)).map (indent bodyDepth)

/-- Turns the first headless directive of a script into a comment, unless the
browser is to have no window. -/
def applyHeadless (headless : Bool) (script : String) : String :=
  if headless then script
  else
    String.ofList
      (Text.replaceFirst headlessDirective.toList disabledDirective.toList script.toList)

def assemble (nodes : List Node) (headless : Bool) : String :=
  applyHeadless headless (unlines (preamble ++ body nodes ++ epilogue) ++ "\n")

end Script

namespace Graph

/-- The script of a flow; `none` without a start step. -/
def script? (g : Graph) (headless : Bool) : Option String :=
  g.order?.map fun nodes => Script.assemble nodes headless

end Graph

end BrowserFlow
