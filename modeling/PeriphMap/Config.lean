/-! The output formats and the options of a run. -/

namespace PeriphMap

/-- The fixed text before and after the generated part of a document. -/
structure Template where
  header : String
  footer : String

/-- The output formats. -/
inductive Mode where
  /-- The package specification `soc.devmap`. -/
  | ada
deriving DecidableEq

def adaHeader : String := "
-- @file devmap.ads
--
-- Copyright 2018 The wookey project team <wookey@ssi.gouv.fr>
--   - Ryad     Benadjila
--   - Arnauld  Michelizza
--   - Mathieu  Renard
--   - Philippe Thierry
--   - Philippe Trebuchet
--
-- Licensed under the Apache License, Version 2.0 (the \"License\");
-- you may not use this file except in compliance with the License.
-- You may obtain a copy of the License at
--
--     http://www.apache.org/licenses/LICENSE-2.0
--
--     Unless required by applicable law or agreed to in writing, software
--     distributed under the License is distributed on an \"AS IS\" BASIS,
--     WITHOUT WARRANTIES OR CONDITIONS OF ANY KIND, either express or implied.
--     See the License for the specific language governing permissions and
--     limitations under the License.
--
-- This file has been generated by tools/devmap.py
--
--

with soc.interrupts; use soc.interrupts;
with soc.dma;

package soc.devmap
   with spark_mode => on
is

   type t_interrupt_range is range 1 .. 4;
   type t_interrupt_list is array (t_interrupt_range)
      of soc.interrupts.t_interrupt;

   -- Structure defining the STM32 device map
   -- This table is based on doc STMicro RM0090 Reference manual memory map
   -- Only devices that may be registered in userspace are defined here

   type t_periph_info is record
      name             : string (1 .. 16);
      addr             : system_address;
      size             : unsigned_32;
      subregions       : unsigned_8;
      interrupt_list   : t_interrupt_list;
      ro               : boolean;
   end record;

   -- STM32F4 devices map
   -- This structure define all available devices and associated informations.
   -- This informations are separated in two parts:
   --   - physical information (IRQ lines, RCC references, physical address...)
   --   - security information (required permissions, usage restriction...)
"

/-- It closes the table first. -/
def adaFooter : String := ");

   function find_periph
     (addr     : system_address;
      size     : unsigned_32)
      return t_periph_id;

   function find_dma_periph
     (id       : soc.dma.t_dma_periph_index;
      stream   : soc.dma.t_stream_index)
      return t_periph_id
         with
            post => find_dma_periph'result /= NO_PERIPH;


end soc.devmap;
"

namespace Mode

def all : List Mode := [ada]

def name : Mode → String
  | ada => "ADA"

/-- Names are matched exactly. -/
def ofName? (name : String) : Option Mode :=
  all.find? (·.name = name)

/-- What is said about a name that no mode has. -/
def unsupported (name : String) : String :=
  "unsupported mode: " ++ name ++ " (supported: " ++ ", ".intercalate (all.map Mode.name) ++ ")"

def template : Mode → Template
  | ada => ⟨adaHeader, adaFooter⟩

end Mode

structure Config where
  mode : Mode := .ada
  /-- Names that do not fit the name column are refused instead of being cut. -/
  strictNames : Bool := false
deriving DecidableEq

/-- The width of the name column of the table. -/
def nameWidth : Nat := 16

end PeriphMap
