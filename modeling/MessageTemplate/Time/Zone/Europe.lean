/-! The recorded histories of the zones of Europe. -/
namespace MessageTemplate.Zone

def europe : List (String × String) := [
  ("Europe/Amsterdam",
    "1172,4772d,1172,4772d,1172,1200,4800d,4800d,3600,7200d,7200d,7200d,3600|-1ygf4wkC16g19c0B7v9" ++
    "80Ca51o0D7x6o0Ea2yo0D9d1c0E9q000D902o0E9q000D902o0E9q000D902o0E9b6o0Da2yo0Ec51c0D6l1c0E902o0" ++
    "D9q000Eci000D682o0Ebgyo0D79400Ebitc0D779c0Ebmio0D7gio0Ebbeo0D7eo00Ebd9c0D7ctc0Ebf400D7ayo0Eb" ++
    "vs00D6uao0Ebko00D7idc0Eb9k00D7gio0Ebbeo0D7eo00Ebf400D7ayo0Ebtxc0D21uc0H4uaz8Fbitc0G779c0Fbko" ++
    "00G7idc0Fbd3s0K1aarpcI7k800J9q000I9d1c0J9d1c0I9d1c0J8l9c0Iggp1c0L902o0M9q000L9d1c0M9d1c0L9d1" ++
    "c0M9q000L902o0M9d1c0L9d1c0M9d1c0L9d1c0M9d1c0L9d1c0M9d1c0L9q000M9d1c0L9d1c0M9d1c0L9d1c0M9d1c0" ++
    "L9d1c0M9d1c0L9d1c0M9d1c0L9d1c0M9d1c0L9q000M9d1c0L9d1c0M9d1c0L9d1c0M9d1c0L9d1c0M9d1c0L9d1c0M9" ++
    "d1c0L9d1c0M9q000Lasw00M7x6o0Lasw00M7x6o0Lasw00M7x6o0Lb5uo0M7k800Lb5uo0M7k800Lb5uo0M7x6o0Lasw" ++
    "00M7x6o0Lasw00M7x6o0Lb5uo0M7k800Lb5uo0M7k800Lb5uo0M7k800Lb5uo0M7x6o0Lasw00M7x6o0Lasw00M7x6o0" ++
    "Lb5uo0M7k800Lb5uo0M7k800Lb5uo0M7x6o0Lasw00M7x6o0Lasw00M7x6o0Lasw00M7x6o0Lb5uo0M7k800Lb5uo0M7" ++
    "k800Lb5uo0M7x6o0Lasw00M7x6o0Lasw00M7x6o0Lb5uo0M7k800Lb5uo0M7k800Lb5uo0M7x6o0Lasw00M7x6o0Lasw" ++
    "00M7x6o0Lasw00M7x6o0Lb5uo0M7k800Lb5uo0M7k800Lb5uo0M7x6o0Lasw00M7x6o0Lasw00M7x6o0Lb5uo0M7k800" ++
    "Lb5uo0M7k800Lb5uo0M7k800Lb5uo0M7x6o0Lasw00M7x6o0Lasw00M|CET-1CEST,M3.5.0,M10.5.0/3"),
  ("Europe/Andorra",
    "364,0,3600,7200d,3600|-100edm4Bnvgqy4Ck3ctg0D9d1c0E9d1c0D9d1c0E9d1c0D9d1c0E9d1c0D9d1c0E9d1c0" ++
    "D9d1c0E9d1c0D9q000E9d1c0D9d1c0E9d1c0D9d1c0E9d1c0D9d1c0E9d1c0D9d1c0E9d1c0D9d1c0E9q000Dasw00E7" ++
    "x6o0Dasw00E7x6o0Dasw00E7x6o0Db5uo0E7k800Db5uo0E7k800Db5uo0E7x6o0Dasw00E7x6o0Dasw00E7x6o0Db5u" ++
    "o0E7k800Db5uo0E7k800Db5uo0E7k800Db5uo0E7x6o0Dasw00E7x6o0Dasw00E7x6o0Db5uo0E7k800Db5uo0E7k800" ++
    "Db5uo0E7x6o0Dasw00E7x6o0Dasw00E7x6o0Dasw00E7x6o0Db5uo0E7k800Db5uo0E7k800Db5uo0E7x6o0Dasw00E7" ++
    "x6o0Dasw00E7x6o0Db5uo0E7k800Db5uo0E7k800Db5uo0E7x6o0Dasw00E7x6o0Dasw00E7x6o0Dasw00E7x6o0Db5u" ++
    "o0E7k800Db5uo0E7k800Db5uo0E7x6o0Dasw00E7x6o0Dasw00E7x6o0Db5uo0E7k800Db5uo0E7k800Db5uo0E7k800" ++
    "Db5uo0E7x6o0Dasw00E7x6o0Dasw00E|CET-1CEST,M3.5.0,M10.5.0/3"),
  ("Europe/Astrakhan",
    "11532,10800,18000d,14400,14400,18000d,14400d,10800,14400|-nu2zkcB37bv8cDqi27w0C9et80D9d440C9" ++
    "et80D9d440C9et80D9eys0C9d6w0E9d1c0F9d1c0E9d1c0F9d1c0E9d1c0F9d1c0E9d1c0F9d1c0E9d1c0G9d440H9d1" ++
    "c0G9q000H9d1c0Eipzw0G9d440H9d1c0G9d1c0H9d1c0G9d1c0H9d1c0G9d1c0H9q000Gasw00H7x6o0Gasw00H7x6o0" ++
    "Gasw00H7x6o0Gb5uo0H7k800Gb5uo0H7k800Gb5uo0H7x6o0Gasw00H7x6o0Gasw00H7x6o0Gb5uo0H7k800Gb5uo0H7" ++
    "k800Gb5uo0H7k800Gb5uo0H7x6o0Gasw00H7x6o0Gasw00H7x6o0Gb5uo0H7k800E1vbzw0Hqnc40EbdvvrjE|<+04>-" ++
    "4"),
  ("Europe/Athens",
    "5692,5692,10800d,7200,3600,7200d,10800d,7200,10800d,7200|-12rxtq4Baw2tdoD8bjasgC2vmk0D4hiw40" ++
    "C16ik0Fscog0E7lx40F9o2k0E9eys0D4atzw0C6djw0Dbplus0Gbq800H71uw0G9d1c0H902o0G91xc0H9o5c0G905g0" ++
    "D9qgo0C9akg0D9iik0C99980D9dcg0I9d1c0J9d1c0I9d1c0J9d1c0I9d1c0J9d1c0I9q000J9d1c0I9d1c0J9d1c0I9" ++
    "d1c0J9d1c0I9d1c0J9d1c0I9d1c0J9d1c0I9d1c0J9d1c0I9q000J9d1c0I9d1c0J9d1c0I9d1c0J9d1c0I9d1c0J9d1" ++
    "c0I9d1c0J9d1c0I9d1c0J9q000Iasw00J7x6o0Iasw00J7x6o0Iasw00J7x6o0Ib5uo0J7k800Ib5uo0J7k800Ib5uo0" ++
    "J7x6o0Iasw00J7x6o0Iasw00J7x6o0Ib5uo0J7k800Ib5uo0J7k800Ib5uo0J7k800Ib5uo0J7x6o0Iasw00J7x6o0Ia" ++
    "sw00J7x6o0Ib5uo0J7k800Ib5uo0J7k800Ib5uo0J7x6o0Iasw00J7x6o0Iasw00J7x6o0Iasw00J7x6o0Ib5uo0J7k8" ++
    "00Ib5uo0J7k800Ib5uo0J7x6o0Iasw00J7x6o0Iasw00J7x6o0Ib5uo0J7k800Ib5uo0J7k800Ib5uo0J7x6o0Iasw00" ++
    "J7x6o0Iasw00J7x6o0Iasw00J7x6o0Ib5uo0J7k800Ib5uo0J7k800Ib5uo0J7x6o0Iasw00J7x6o0Iasw00J7x6o0Ib" ++
    "5uo0J7k800Ib5uo0J7k800Ib5uo0J7k800Ib5uo0J7x6o0Iasw00J7x6o0Iasw00J|EET-2EEST,M3.5.0/3,M10.5.0" ++
    "/4"),
  ("Europe/Belgrade",
    "4920,3600,3600,7200d,7200d,7200d,3600|-18vsmgoBtwhnkoEswz00C7k800D9q000C9d1c0D9d1c0Cb7pc0D6q" ++
    "lc0Cjl1hc0F9d1c0G9d1c0F9q000G9d1c0F9d1c0G9d1c0F9d1c0G9d1c0F9d1c0G9d1c0F9d1c0G9d1c0F9d1c0G9d1" ++
    "c0F9q000G9d1c0F9d1c0G9d1c0F9d1c0G9d1c0F9d1c0G9d1c0F9d1c0G9d1c0F9d1c0G9q000Fasw00G7x6o0Fasw00" ++
    "G7x6o0Fasw00G7x6o0Fb5uo0G7k800Fb5uo0G7k800Fb5uo0G7x6o0Fasw00G7x6o0Fasw00G7x6o0Fb5uo0G7k800Fb" ++
    "5uo0G7k800Fb5uo0G7k800Fb5uo0G7x6o0Fasw00G7x6o0Fasw00G7x6o0Fb5uo0G7k800Fb5uo0G7k800Fb5uo0G7x6" ++
    "o0Fasw00G7x6o0Fasw00G7x6o0Fasw00G7x6o0Fb5uo0G7k800Fb5uo0G7k800Fb5uo0G7x6o0Fasw00G7x6o0Fasw00" ++
    "G7x6o0Fb5uo0G7k800Fb5uo0G7k800Fb5uo0G7x6o0Fasw00G7x6o0Fasw00G7x6o0Fasw00G7x6o0Fb5uo0G7k800Fb" ++
    "5uo0G7k800Fb5uo0G7x6o0Fasw00G7x6o0Fasw00G7x6o0Fb5uo0G7k800Fb5uo0G7k800Fb5uo0G7k800Fb5uo0G7x6" ++
    "o0Fasw00G7x6o0Fasw00G|CET-1CEST,M3.5.0,M10.5.0/3"),
  ("Europe/Berlin",
    "3208,7200d,3600,7200d,3600,10800d,10800d,7200d,3600|-1421154Cc1n0x4B7ves0Ca4yw0D7x6o0Easw00D" ++
    "7x6o0Eb8qdc0D1cm000E7k800D9q000E9d1c0D9d1c0E9d1c0D2o7w0F6bs00B2txg0E7k800D91xc0E9b9g0D1sqk0G" ++
    "2inw0B51k40Ea2yo0D8n400E9q000D902o0Efx91c0H902o0I9d1c0H9d1c0I9d1c0H9d1c0I9d1c0H9d1c0I9d1c0H9" ++
    "q000I9d1c0H9d1c0I9d1c0H9d1c0I9d1c0H9d1c0I9d1c0H9d1c0I9d1c0H9d1c0I9d1c0H9q000I9d1c0H9d1c0I9d1" ++
    "c0H9d1c0I9d1c0H9d1c0I9d1c0H9d1c0I9d1c0H9d1c0I9q000Hasw00I7x6o0Hasw00I7x6o0Hasw00I7x6o0Hb5uo0" ++
    "I7k800Hb5uo0I7k800Hb5uo0I7x6o0Hasw00I7x6o0Hasw00I7x6o0Hb5uo0I7k800Hb5uo0I7k800Hb5uo0I7k800Hb" ++
    "5uo0I7x6o0Hasw00I7x6o0Hasw00I7x6o0Hb5uo0I7k800Hb5uo0I7k800Hb5uo0I7x6o0Hasw00I7x6o0Hasw00I7x6" ++
    "o0Hasw00I7x6o0Hb5uo0I7k800Hb5uo0I7k800Hb5uo0I7x6o0Hasw00I7x6o0Hasw00I7x6o0Hb5uo0I7k800Hb5uo0" ++
    "I7k800Hb5uo0I7x6o0Hasw00I7x6o0Hasw00I7x6o0Hasw00I7x6o0Hb5uo0I7k800Hb5uo0I7k800Hb5uo0I7x6o0Ha" ++
    "sw00I7x6o0Hasw00I7x6o0Hb5uo0I7k800Hb5uo0I7k800Hb5uo0I7k800Hb5uo0I7x6o0Hasw00I7x6o0Hasw00I|CE" ++
    "T-1CEST,M3.5.0,M10.5.0/3"),
  ("Europe/Brussels",
    "1050,1050,0,3600,7200d,3600,7200d,3600d,0,0,7200d,3600|-1ayy3h6B6forh6Cbr3hc0Drrx80G7vc00Da4" ++
    "yw0E7x6o0Fasw00E7x6o0F2wh40J5omo0Hb5uo0I6uao0Hcyo00I7ayo0Hbko00I7rmo0Ha2yo0Ia2yo0H8n400I902o" ++
    "0H9q000I9d1c0H9d1c0Ia2yo0H8n400I9q000H902o0Ia2yo0H90b00Ia2yo0H8n400I9q000H902o0Ia2yo0H8n400I" ++
    "9d1c0H9d1c0I902o0Ha2yo0I9d1c0H9d1c0I902o0H9q000Ia2yo0H8n400I9d1c0H9d1c0I902o0H9q000Ia2yo0Hb5" ++
    "uo0I51hc0H4deo0E1a36k0F7k800E9q000F9d1c0E8l9c0Fa4tc0E8l9c0Fclpc0E79400Ffwu800K902o0L9q000K9d" ++
    "1c0L9d1c0K9d1c0L9q000K902o0L9d1c0K9d1c0L9d1c0K9d1c0L9d1c0K9d1c0L9d1c0K9q000L9d1c0K9d1c0L9d1c" ++
    "0K9d1c0L9d1c0K9d1c0L9d1c0K9d1c0L9d1c0K9d1c0L9d1c0K9q000L9d1c0K9d1c0L9d1c0K9d1c0L9d1c0K9d1c0L" ++
    "9d1c0K9d1c0L9d1c0K9d1c0L9q000Kasw00L7x6o0Kasw00L7x6o0Kasw00L7x6o0Kb5uo0L7k800Kb5uo0L7k800Kb5" ++
    "uo0L7x6o0Kasw00L7x6o0Kasw00L7x6o0Kb5uo0L7k800Kb5uo0L7k800Kb5uo0L7k800Kb5uo0L7x6o0Kasw00L7x6o" ++
    "0Kasw00L7x6o0Kb5uo0L7k800Kb5uo0L7k800Kb5uo0L7x6o0Kasw00L7x6o0Kasw00L7x6o0Kasw00L7x6o0Kb5uo0L" ++
    "7k800Kb5uo0L7k800Kb5uo0L7x6o0Kasw00L7x6o0Kasw00L7x6o0Kb5uo0L7k800Kb5uo0L7k800Kb5uo0L7x6o0Kas" ++
    "w00L7x6o0Kasw00L7x6o0Kasw00L7x6o0Kb5uo0L7k800Kb5uo0L7k800Kb5uo0L7x6o0Kasw00L7x6o0Kasw00L7x6o" ++
    "0Kb5uo0L7k800Kb5uo0L7k800Kb5uo0L7k800Kb5uo0L7x6o0Kasw00L7x6o0Kasw00L|CET-1CEST,M3.5.0,M10.5." ++
    "0/3"),
  ("Europe/Bucharest",
    "6264,6264,10800d,7200,10800d,7200,10800d,7200|-14u7wu0Bkrxxc0Ffj8m0C6w5c0D9d1c0C9d1c0D9q000C" ++
    "9d1c0D9d1c0C9d1c0D9d1c0C9d1c0D9d1c0C9d1c0D9d1c0C9d1c0D9d1c0C9d1c0Dkp0dc0E6h980F9q000E905g0F9" ++
    "d6w0C9d1c0D9d1c0C9d1c0D9d1c0C9d1c0D9d1c0C9q000D9d1c0C9d1c0D9d1c0C9d1c0D9d1c0C9d1c0D9d1c0C9d1" ++
    "c0D9d1c0C9d1c0D9d1c0C9q000D9cvs0C9d1c0D9d1c0C9d1c0D9d1c0C9d1c0D9d1c0E9cyk0F9d440E9cyk0F9q2s0" ++
    "East80F7xhs0Gasw00H7x6o0Gasw00H7x6o0Gb5uo0H7k800Gb5uo0H7k800Gb5uo0H7x6o0Gasw00H7x6o0Gasw00H7" ++
    "x6o0Gb5uo0H7k800Gb5uo0H7k800Gb5uo0H7k800Gb5uo0H7x6o0Gasw00H7x6o0Gasw00H7x6o0Gb5uo0H7k800Gb5u" ++
    "o0H7k800Gb5uo0H7x6o0Gasw00H7x6o0Gasw00H7x6o0Gasw00H7x6o0Gb5uo0H7k800Gb5uo0H7k800Gb5uo0H7x6o0" ++
    "Gasw00H7x6o0Gasw00H7x6o0Gb5uo0H7k800Gb5uo0H7k800Gb5uo0H7x6o0Gasw00H7x6o0Gasw00H7x6o0Gasw00H7" ++
    "x6o0Gb5uo0H7k800Gb5uo0H7k800Gb5uo0H7x6o0Gasw00H7x6o0Gasw00H7x6o0Gb5uo0H7k800Gb5uo0H7k800Gb5u" ++
    "o0H7k800Gb5uo0H7x6o0Gasw00H7x6o0Gasw00H|EET-2EEST,M3.5.0/3,M10.5.0/4"),
  ("Europe/Budapest",
    "4580,7200d,3600,7200d,3600,7200d,3600|-15bee78Cdb0dz8B7ves0Ca4yw0D7x6o0Easw00B7x6o0Cauqo0B7v" ++
    "c00Cafxc0B8n400Caq1x00Bthcc0E7k800D9q000E9d1c0D9d1c0Eawd00B9eys0C7pxk0D9rrw0C9b9g0D9d1c0E9d1" ++
    "c0D9d1c0E9q000D902o0E2f4vs0B6u7w0Cbw0c0B6uao0Cclpc0B64dc0Cclpc0B64dc0Cbr3bs0B902o0C9d1c0B9d1" ++
    "c0C9d1c0B9d1c0C9d1c0B9d1c0C9d6w0F9q000G9d1c0F9d1c0G9d1c0F9d1c0G9d1c0F9d1c0G9d1c0F9d1c0G9d1c0" ++
    "F9d1c0G9d1c0F9q000G9d1c0F9d1c0G9d1c0F9d1c0G9d1c0F9d1c0G9d1c0F9d1c0G9d1c0F9d1c0G9q000Fasw00G7" ++
    "x6o0Fasw00G7x6o0Fasw00G7x6o0Fb5uo0G7k800Fb5uo0G7k800Fb5uo0G7x6o0Fasw00G7x6o0Fasw00G7x6o0Fb5u" ++
    "o0G7k800Fb5uo0G7k800Fb5uo0G7k800Fb5uo0G7x6o0Fasw00G7x6o0Fasw00G7x6o0Fb5uo0G7k800Fb5uo0G7k800" ++
    "Fb5uo0G7x6o0Fasw00G7x6o0Fasw00G7x6o0Fasw00G7x6o0Fb5uo0G7k800Fb5uo0G7k800Fb5uo0G7x6o0Fasw00G7" ++
    "x6o0Fasw00G7x6o0Fb5uo0G7k800Fb5uo0G7k800Fb5uo0G7x6o0Fasw00G7x6o0Fasw00G7x6o0Fasw00G7x6o0Fb5u" ++
    "o0G7k800Fb5uo0G7k800Fb5uo0G7x6o0Fasw00G7x6o0Fasw00G7x6o0Fb5uo0G7k800Fb5uo0G7k800Fb5uo0G7k800" ++
    "Fb5uo0G7x6o0Fasw00G7x6o0Fasw00G|CET-1CEST,M3.5.0,M10.5.0/3"),
  ("Europe/Chisinau",
    "6920,6900,6264,10800d,7200,7200,10800d,3600,7200d,7200d,14400d,10800,10800,14400d,10800d,720" ++
    "0|-1ayy808Bjw96okC70f1toFfj8m0D6w5c0E9d1c0D9d1c0E9q000D9d1c0E9d1c0D9d1c0E9d1c0D9d1c0E9d1c0D9" ++
    "d1c0E9d1c0D9d1c0E9d1c0D9d1c0Egeqo0Gha580Joc8g0H7k800I9q000H9d1c0I7cl00Lj3pbw0K9et80L9d440K9e" ++
    "t80L9d440K9et80L9eys0K9d6w0M9d1c0N9d1c0M9d1c0N9d1c0M9d1c0N9d1c0M9d1c0N9d1c0M9d1c0N9d1c0M9d1c" ++
    "0N25p80G7kdk0E9d1c0D9d1c0E9cvs0G9cyk0F9d440G9cyk0F9d440G9cyk0F9d440G9cyk0F9q2s0Gast80F7xf00G" ++
    "asw00F7x6o0Gasw00F7x6o0Gb5uo0F7k800Gb5uo0F7k800Gb5uo0F7x6o0Gasw00F7x6o0Gasw00F7x6o0Gb5uo0F7k" ++
    "800Gb5uo0F7k800Gb5uo0F7k800Gb5uo0F7x6o0Gasw00F7x6o0Gasw00F7x6o0Gb5uo0F7k800Gb5uo0F7k800Gb5uo" ++
    "0F7x6o0Gasw00F7x6o0Gasw00F7x6o0Gasw00F7x6o0Gb5uo0F7k800Gb5uo0F7k800Gb5uo0F7x6o0Gasw00F7x6o0G" ++
    "asw00F7x6o0Gb5uo0F7kas0Ob5uo0P7k800Ob5uo0P7x6o0Oasw00P7x6o0Oasw00P7x6o0Oasw00P7x6o0Ob5uo0P7k" ++
    "800Ob5uo0P7k800Ob5uo0P7x6o0Oasw00P7x6o0Oasw00P7x6o0Ob5uo0P7k800Ob5uo0P7k800Ob5uo0P7k800Ob5uo" ++
    "0P7x6o0Oasw00P7x6o0Oasw00P|EET-2EEST,M3.5.0/3,M10.5.0/4"),
  ("Europe/Copenhagen",
    "3020,3020,7200d,3600,3600,7200d,7200d,3600|-15r1bnwB235k00Dbo7orwC75bw0Dcbs2w0C1aco80E7k800F" ++
    "9q000E9d1c0F9d1c0E9d1c0F6y000Edbmo0F6bs00Eclpc0F51hc0Ee1k00F4oio0Egiutc0G902o0H9d1c0G9d1c0H9" ++
    "d1c0G9d1c0H9d1c0G9d1c0H9d1c0G9q000H9d1c0G9d1c0H9d1c0G9d1c0H9d1c0G9d1c0H9d1c0G9d1c0H9d1c0G9d1" ++
    "c0H9d1c0G9q000H9d1c0G9d1c0H9d1c0G9d1c0H9d1c0G9d1c0H9d1c0G9d1c0H9d1c0G9d1c0H9q000Gasw00H7x6o0" ++
    "Gasw00H7x6o0Gasw00H7x6o0Gb5uo0H7k800Gb5uo0H7k800Gb5uo0H7x6o0Gasw00H7x6o0Gasw00H7x6o0Gb5uo0H7" ++
    "k800Gb5uo0H7k800Gb5uo0H7k800Gb5uo0H7x6o0Gasw00H7x6o0Gasw00H7x6o0Gb5uo0H7k800Gb5uo0H7k800Gb5u" ++
    "o0H7x6o0Gasw00H7x6o0Gasw00H7x6o0Gasw00H7x6o0Gb5uo0H7k800Gb5uo0H7k800Gb5uo0H7x6o0Gasw00H7x6o0" ++
    "Gasw00H7x6o0Gb5uo0H7k800Gb5uo0H7k800Gb5uo0H7x6o0Gasw00H7x6o0Gasw00H7x6o0Gasw00H7x6o0Gb5uo0H7" ++
    "k800Gb5uo0H7k800Gb5uo0H7x6o0Gasw00H7x6o0Gasw00H7x6o0Gb5uo0H7k800Gb5uo0H7k800Gb5uo0H7k800Gb5u" ++
    "o0H7x6o0Gasw00H7x6o0Gasw00H|CET-1CEST,M3.5.0,M10.5.0/3"),
  ("Europe/Dublin",
    "-1521,-1521,2079d,3600d,0,3600d,3600,3600d,0|-1anxqtrBiol480C6uao0E9pytrD8c000E9o5c0D9ruo0E9" ++
    "b6o0D9ew00E9b6o0Dauqo0E88ao0D9ew00E8y800Fa2yo0Ea2yo0F7k800Easw00F8a5c0Easw00F8n400Ea2yo0F8n4" ++
    "00E9q000F902o0Eafxc0F8n400Ea2yo0F8n400E9q000F902o0Ea2yo0F8n400Ea2yo0F8n400E9q000F9d1c0Ea2yo0" ++
    "F8n400E9q000F902o0Ea2yo0F8n400Ea2yo0F8n400E9q000F902o0Ea2yo0Fb5uo0E51hc0F3g8800E8a5c0Fbvs00E" ++
    "8n400Fa2yo0E7x6o0Fasw00E8n400F9q000E902o0F9q000E9d1c0F9q000E902o0F8n400E9q000F902o0Ea2yo0F8n" ++
    "400Eafxc0F8n400E9q000F902o0Ea2yo0F8n400Ea2yo0F8n400E9q000F902o0E902o0Fb5uo0E7k800Fb5uo0E7x6o" ++
    "0Fasw00E7k800Fb5uo0E7k800Fb5uo0E7k800Fb5uo0E7k800Fbitc0E5reo0Fcyfo0G1kjf00I779c0Fbitc0E779c0" ++
    "Fbitc0E779c0Fbitc0E779c0Fbitc0E7k800Fb5uo0E7k800Fb5uo0E7k800Fbitc0E779c0Fbitc0E779c0Fbitc0E7" ++
    "x3w0Hasw00I7x6o0Hasw00I7x6o0Hasw00I7x6o0Hb5uo0I7x6o0Hasw00I7x6o0Hasw00I7x6o0Hasw00I7x6o0Hasw" ++
    "00I7x6o0Hb5uo0I7k800Hb5uo0I7x6o0Hasw00I7x6o0Hasw00I7x6o0Hasw00I7x6o0Hasw00I7x6o0Hasw00I8a5c0" ++
    "Hasw00I7x6o0Hasw00I7x6o0Hasw00I7x6o0Hb5uo0I7k800Hb5uo0I7k800Hb5uo0I7x6o0Hasw00I7x6o0Hasw00I7" ++
    "x6o0Hb5uo0I7k800Hb5uo0I7k800Hb5uo0I7k800Hb5uo0I7x6o0Hasw00I7x6o0Hasw00I7x6o0Hb5uo0I7k800Hb5u" ++
    "o0I7k800Hb5uo0I7x6o0Hasw00I7x6o0Hasw00I7x6o0Hasw00I7x6o0Hb5uo0I7k800Hb5uo0I7k800Hb5uo0I7x6o0" ++
    "Hasw00I7x6o0Hasw00I7x6o0Hb5uo0I7k800Hb5uo0I7k800Hb5uo0I7x6o0Hasw00I7x6o0Hasw00I7x6o0Hasw00I7" ++
    "x6o0Hb5uo0I7k800Hb5uo0I7k800Hb5uo0I7x6o0Hasw00I7x6o0Hasw00I7x6o0Hb5uo0I7k800Hb5uo0I7k800Hb5u" ++
    "o0I7k800Hb5uo0I7x6o0Hasw00I7x6o0Hasw00I|GMT0IST,M3.5.0/1,M10.5.0"),
  ("Europe/Gibraltar",
    "-1284,3600d,0,7200d,0,3600,7200d,3600|-1anxr0cEiol38cB6uao0C9q000B8c000C9o5c0B9ruo0C9b6o0B9e" ++
    "w00C9b6o0Bauqo0C88ao0B9ew00C8y800Ba2yo0Ca2yo0B7k800Casw00B8a5c0Casw00B8n400Ca2yo0B8n400C9q00" ++
    "0B902o0Cafxc0B8n400Ca2yo0B8n400C9q000B902o0Ca2yo0B8n400Ca2yo0B8n400C9q000B9d1c0Ca2yo0B8n400C" ++
    "9q000B902o0Ca2yo0B8n400Ca2yo0B8n400C9q000B902o0Ca2yo0Bb5uo0C51hc0Bmbmk0D51hc0Bc8qo0D6hc00Bc8" ++
    "qo0D6uao0Bbvs00D8n400Ba4tc0D5clc0B4bms0C9q000B902o0C8a5c0B1frw0D64dc0B4bms0C6uao0Bbvs00C7x6o" ++
    "0Basw00C8n400B9q000C902o0B9q000C9d1c0B9q000C902o0B8n400C9q000B902o0Ca2yo0B8n400Cafxc0B8n400C" ++
    "9q000Fd0tp80G9d1c0H9d1c0G9d1c0H9d1c0G9q000H9d1c0G9d1c0H9d1c0G9d1c0H9d1c0G9d1c0H9d1c0G9d1c0H9" ++
    "d1c0G9d1c0H9d1c0G9q000H9d1c0G9d1c0H9d1c0G9d1c0H9d1c0G9d1c0H9d1c0G9d1c0H9d1c0G9d1c0H9q000Gasw" ++
    "00H7x6o0Gasw00H7x6o0Gasw00H7x6o0Gb5uo0H7k800Gb5uo0H7k800Gb5uo0H7x6o0Gasw00H7x6o0Gasw00H7x6o0" ++
    "Gb5uo0H7k800Gb5uo0H7k800Gb5uo0H7k800Gb5uo0H7x6o0Gasw00H7x6o0Gasw00H7x6o0Gb5uo0H7k800Gb5uo0H7" ++
    "k800Gb5uo0H7x6o0Gasw00H7x6o0Gasw00H7x6o0Gasw00H7x6o0Gb5uo0H7k800Gb5uo0H7k800Gb5uo0H7x6o0Gasw" ++
    "00H7x6o0Gasw00H7x6o0Gb5uo0H7k800Gb5uo0H7k800Gb5uo0H7x6o0Gasw00H7x6o0Gasw00H7x6o0Gasw00H7x6o0" ++
    "Gb5uo0H7k800Gb5uo0H7k800Gb5uo0H7x6o0Gasw00H7x6o0Gasw00H7x6o0Gb5uo0H7k800Gb5uo0H7k800Gb5uo0H7" ++
    "k800Gb5uo0H7x6o0Gasw00H7x6o0Gasw00H|CET-1CEST,M3.5.0,M10.5.0/3"),
  ("Europe/Guernsey",
    "-609,3600d,0,0,3600,7200d,7200d,7200d,7200d,3600,3600d,0|-tiakv3D1ixx33B6uao0C9q000B8c000C9o" ++
    "5c0B9ruo0C9b6o0B9ew00C9b6o0Bauqo0C88ao0B9ew00C8y800Ba2yo0Ca2yo0B7k800Casw00B8a5c0Casw00B8n40" ++
    "0Ca2yo0B8n400C9q000B902o0Cafxc0B8n400Ca2yo0B8n400C9q000B902o0Ca2yo0B8n400Ca2yo0B8n400C9q000B" ++
    "9d1c0Ca2yo0B8n400C9q000B902o0Ca2yo0B8n400Ca2yo0B8n400C9q000B902o0Ca2yo0Bb5uo0C51hc0B6kt00G17" ++
    "vs80E7k800F9q000E9d1c0F9d1c0E9d1c0F1ufo0I3i5o0B4bms0C9q000B902o0C8a5c0B1frw0H64dc0B4bms0C6ua" ++
    "o0Bbvs00C7x6o0Basw00C8n400B9q000C902o0B9q000C9d1c0B9q000C902o0B8n400C9q000B902o0Ca2yo0B8n400" ++
    "Cafxc0B8n400C9q000B902o0Ca2yo0B8n400Ca2yo0B8n400C9q000B902o0C902o0Bb5uo0C7k800Bb5uo0C7x6o0Ba" ++
    "sw00C7k800Bb5uo0C7k800Bb5uo0C7k800Bb5uo0C7k800Bbitc0C5reo0Bcyfo0J1kjf00L779c0Bbitc0C779c0Bbi" ++
    "tc0C779c0Bbitc0C779c0Bbitc0C7k800Bb5uo0C7k800Bb5uo0C7k800Bbitc0C779c0Bbitc0C779c0Bbitc0C7x3w" ++
    "0Kasw00L7x6o0Kasw00L7x6o0Kasw00L7x6o0Kb5uo0L7x6o0Kasw00L7x6o0Kasw00L7x6o0Kasw00L7x6o0Kasw00L" ++
    "7x6o0Kb5uo0L7k800Kb5uo0L7x6o0Kasw00L7x6o0Kasw00L7x6o0Kasw00L7x6o0Kasw00L7x6o0Kasw00L8a5c0Kas" ++
    "w00L7x6o0Kasw00L7x6o0Kasw00L7x6o0Kb5uo0L7k800Kb5uo0L7k800Kb5uo0L7x6o0Kasw00L7x6o0Kasw00L7x6o" ++
    "0Kb5uo0L7k800Kb5uo0L7k800Kb5uo0L7k800Kb5uo0L7x6o0Kasw00L7x6o0Kasw00L7x6o0Kb5uo0L7k800Kb5uo0L" ++
    "7k800Kb5uo0L7x6o0Kasw00L7x6o0Kasw00L7x6o0Kasw00L7x6o0Kb5uo0L7k800Kb5uo0L7k800Kb5uo0L7x6o0Kas" ++
    "w00L7x6o0Kasw00L7x6o0Kb5uo0L7k800Kb5uo0L7k800Kb5uo0L7x6o0Kasw00L7x6o0Kasw00L7x6o0Kasw00L7x6o" ++
    "0Kb5uo0L7k800Kb5uo0L7k800Kb5uo0L7x6o0Kasw00L7x6o0Kasw00L7x6o0Kb5uo0L7k800Kb5uo0L7k800Kb5uo0L" ++
    "7k800Kb5uo0L7x6o0Kasw00L7x6o0Kasw00L|GMT0BST,M3.5.0/1,M10.5.0"),
  ("Europe/Helsinki",
    "5989,5989,10800d,7200,10800d,7200|-1bss9ydBmebs00Dax3tqdC9gqo0Dk31s80C9d1c0D9d1c0C9d1c0D9d44" ++
    "0E9d1c0F9d1c0E9q000F9d1c0E9d1c0F9d1c0E9d1c0F9d1c0E9d1c0F9d1c0E9d1c0F9d1c0E9d1c0F9d1c0E9q000F" ++
    "9d1c0E9d1c0F9d1c0E9d1c0F9d1c0E9d1c0F9d1c0E9d1c0F9d1c0E9d1c0F9q000Easw00F7x6o0Easw00F7x6o0Eas" ++
    "w00F7x6o0Eb5uo0F7k800Eb5uo0F7k800Eb5uo0F7x6o0Easw00F7x6o0Easw00F7x6o0Eb5uo0F7k800Eb5uo0F7k80" ++
    "0Eb5uo0F7k800Eb5uo0F7x6o0Easw00F7x6o0Easw00F7x6o0Eb5uo0F7k800Eb5uo0F7k800Eb5uo0F7x6o0Easw00F" ++
    "7x6o0Easw00F7x6o0Easw00F7x6o0Eb5uo0F7k800Eb5uo0F7k800Eb5uo0F7x6o0Easw00F7x6o0Easw00F7x6o0Eb5" ++
    "uo0F7k800Eb5uo0F7k800Eb5uo0F7x6o0Easw00F7x6o0Easw00F7x6o0Easw00F7x6o0Eb5uo0F7k800Eb5uo0F7k80" ++
    "0Eb5uo0F7x6o0Easw00F7x6o0Easw00F7x6o0Eb5uo0F7k800Eb5uo0F7k800Eb5uo0F7k800Eb5uo0F7x6o0Easw00F" ++
    "7x6o0Easw00F|EET-2EEST,M3.5.0/3,M10.5.0/4"),
  ("Europe/Isle_of_Man",
    "-1075,3600d,0,7200d,3600,3600d,0|-19a1gi5Chaosq5B6uao0C9q000B8c000C9o5c0B9ruo0C9b6o0B9ew00C9" ++
    "b6o0Bauqo0C88ao0B9ew00C8y800Ba2yo0Ca2yo0B7k800Casw00B8a5c0Casw00B8n400Ca2yo0B8n400C9q000B902" ++
    "o0Cafxc0B8n400Ca2yo0B8n400C9q000B902o0Ca2yo0B8n400Ca2yo0B8n400C9q000B9d1c0Ca2yo0B8n400C9q000" ++
    "B902o0Ca2yo0B8n400Ca2yo0B8n400C9q000B902o0Ca2yo0Bb5uo0C51hc0Bmbmk0D51hc0Bc8qo0D6hc00Bc8qo0D6" ++
    "uao0Bbvs00D8n400Ba4tc0D5clc0B4bms0C9q000B902o0C8a5c0B1frw0D64dc0B4bms0C6uao0Bbvs00C7x6o0Basw" ++
    "00C8n400B9q000C902o0B9q000C9d1c0B9q000C902o0B8n400C9q000B902o0Ca2yo0B8n400Cafxc0B8n400C9q000" ++
    "B902o0Ca2yo0B8n400Ca2yo0B8n400C9q000B902o0C902o0Bb5uo0C7k800Bb5uo0C7x6o0Basw00C7k800Bb5uo0C7" ++
    "k800Bb5uo0C7k800Bb5uo0C7k800Bbitc0C5reo0Bcyfo0E1kjf00G779c0Bbitc0C779c0Bbitc0C779c0Bbitc0C77" ++
    "9c0Bbitc0C7k800Bb5uo0C7k800Bb5uo0C7k800Bbitc0C779c0Bbitc0C779c0Bbitc0C7x3w0Fasw00G7x6o0Fasw0" ++
    "0G7x6o0Fasw00G7x6o0Fb5uo0G7x6o0Fasw00G7x6o0Fasw00G7x6o0Fasw00G7x6o0Fasw00G7x6o0Fb5uo0G7k800F" ++
    "b5uo0G7x6o0Fasw00G7x6o0Fasw00G7x6o0Fasw00G7x6o0Fasw00G7x6o0Fasw00G8a5c0Fasw00G7x6o0Fasw00G7x" ++
    "6o0Fasw00G7x6o0Fb5uo0G7k800Fb5uo0G7k800Fb5uo0G7x6o0Fasw00G7x6o0Fasw00G7x6o0Fb5uo0G7k800Fb5uo" ++
    "0G7k800Fb5uo0G7k800Fb5uo0G7x6o0Fasw00G7x6o0Fasw00G7x6o0Fb5uo0G7k800Fb5uo0G7k800Fb5uo0G7x6o0F" ++
    "asw00G7x6o0Fasw00G7x6o0Fasw00G7x6o0Fb5uo0G7k800Fb5uo0G7k800Fb5uo0G7x6o0Fasw00G7x6o0Fasw00G7x" ++
    "6o0Fb5uo0G7k800Fb5uo0G7k800Fb5uo0G7x6o0Fasw00G7x6o0Fasw00G7x6o0Fasw00G7x6o0Fb5uo0G7k800Fb5uo" ++
    "0G7k800Fb5uo0G7x6o0Fasw00G7x6o0Fasw00G7x6o0Fb5uo0G7k800Fb5uo0G7k800Fb5uo0G7k800Fb5uo0G7x6o0F" ++
    "asw00G7x6o0Fasw00G|GMT0BST,M3.5.0/1,M10.5.0"),
  ("Europe/Istanbul",
    "6952,7016,10800d,7200,10800,14400d,10800d,7200,10800d,7200,10800|-1ayy814Bg1oam8D2wvx6wC7v98" ++
    "0D1tjc40Caunw0D88dg0C9et80D8yas0Ca2vw0Dtzpg0C79180Dawo40C7v980D7p4040C4zjw0D2vs40Cf4d80D9vms" ++
    "0C1u5ek0Dc5440C69uk0Dacas0C8n180Da31g0C8n180D9q2s0C8zzw0Da31g0C8zzw0Da31g0C8n180D5md9g0Co9zw" ++
    "0Da6qs0C75bw0D4iwyw0C7x6o0D7kas0Cb5rw0D75hg0Cbkl80D77c40Cbiqk0D7x9g0Ca2vw0D8n6s0C4iqc0E2nkw8" ++
    "0F38l80Ekdes0D8qtc0G8a5c0H9ew00G9d1c0H9d1c0G9d1c0H9d1c0G9d1c0H9d1c0G9d1c0H9d1c0G9q000H9d1c0G" ++
    "9d1c0H9d1c0G9d1c0H9d1c0G9d1c0H902o0G9q000H9d1c0G9d1c0H9q000Gasw00H7x6o0Gasw00H7x6o0Gasw00H7x" ++
    "6o0Gb5uo0H7k800Gb5uo0H7k800Gb5uo0H7x6o0Gasw00H7x6o0Gasw00H7x6o0Gb5uo0H7k800Gb5uo0H7k800Gb5uo" ++
    "0H7kdk0Ib5uo0J7x6o0Iasw00J7x6o0Iasw00J7x6o0Ib5uo0J7m2o0Ib4000J7k800Ib5uo0J7x6o0Iasw00J7z1c0I" ++
    "ar1c0J7x6o0Ibitc0J779c0I8fe80Eb5gbzjE|<+03>-3"),
  ("Europe/Jersey",
    "-506,3600d,0,0,3600,7200d,7200d,7200d,7200d,3600,3600d,0|-11cerk0D9d23s0B6uao0C9q000B8c000C9" ++
    "o5c0B9ruo0C9b6o0B9ew00C9b6o0Bauqo0C88ao0B9ew00C8y800Ba2yo0Ca2yo0B7k800Casw00B8a5c0Casw00B8n4" ++
    "00Ca2yo0B8n400C9q000B902o0Cafxc0B8n400Ca2yo0B8n400C9q000B902o0Ca2yo0B8n400Ca2yo0B8n400C9q000" ++
    "B9d1c0Ca2yo0B8n400C9q000B902o0Ca2yo0B8n400Ca2yo0B8n400C9q000B902o0Ca2yo0Bb5uo0C51hc0B6kt00G1" ++
    "7vs80E7k800F9q000E9d1c0F9d1c0E9d1c0F1ufo0I3i5o0B4bms0C9q000B902o0C8a5c0B1frw0H64dc0B4bms0C6u" ++
    "ao0Bbvs00C7x6o0Basw00C8n400B9q000C902o0B9q000C9d1c0B9q000C902o0B8n400C9q000B902o0Ca2yo0B8n40" ++
    "0Cafxc0B8n400C9q000B902o0Ca2yo0B8n400Ca2yo0B8n400C9q000B902o0C902o0Bb5uo0C7k800Bb5uo0C7x6o0B" ++
    "asw00C7k800Bb5uo0C7k800Bb5uo0C7k800Bb5uo0C7k800Bbitc0C5reo0Bcyfo0J1kjf00D779c0Bbitc0C779c0Bb" ++
    "itc0C779c0Bbitc0C779c0Bbitc0C7k800Bb5uo0C7k800Bb5uo0C7k800Bbitc0C779c0Bbitc0C779c0Bbitc0C7x3" ++
    "w0Kasw00D7x6o0Kasw00D7x6o0Kasw00D7x6o0Kb5uo0D7x6o0Kasw00D7x6o0Kasw00D7x6o0Kasw00D7x6o0Kasw00" ++
    "D7x6o0Kb5uo0D7k800Kb5uo0D7x6o0Kasw00D7x6o0Kasw00D7x6o0Kasw00D7x6o0Kasw00D7x6o0Kasw00D8a5c0Ka" ++
    "sw00D7x6o0Kasw00D7x6o0Kasw00D7x6o0Kb5uo0D7k800Kb5uo0D7k800Kb5uo0D7x6o0Kasw00D7x6o0Kasw00D7x6" ++
    "o0Kb5uo0D7k800Kb5uo0D7k800Kb5uo0D7k800Kb5uo0D7x6o0Kasw00D7x6o0Kasw00D7x6o0Kb5uo0D7k800Kb5uo0" ++
    "D7k800Kb5uo0D7x6o0Kasw00D7x6o0Kasw00D7x6o0Kasw00D7x6o0Kb5uo0D7k800Kb5uo0D7k800Kb5uo0D7x6o0Ka" ++
    "sw00D7x6o0Kasw00D7x6o0Kb5uo0D7k800Kb5uo0D7k800Kb5uo0D7x6o0Kasw00D7x6o0Kasw00D7x6o0Kasw00D7x6" ++
    "o0Kb5uo0D7k800Kb5uo0D7k800Kb5uo0D7x6o0Kasw00D7x6o0Kasw00D7x6o0Kb5uo0D7k800Kb5uo0D7k800Kb5uo0" ++
    "D7k800Kb5uo0D7x6o0Kasw00D7x6o0Kasw00D|GMT0BST,M3.5.0/1,M10.5.0"),
  ("Europe/Kaliningrad",
    "4920,7200d,3600,7200d,3600,10800d,7200,14400d,10800,10800,14400d,10800d,7200,10800,7200|-142" ++
    "12goCc1n28oB7ves0Ca4yw0D7x6o0Easw00D7x6o0Eb8qdc0D1cm000E7k800D9q000E9d1c0D9d1c0E9d1c0Del00Gz" ++
    "6o0F9kd80G82tg0Ii9avw0H9et80I9d440H9et80I9d440H9et80I9eys0H9d6w0J9d1c0K9d1c0J9d1c0K9d1c0J9d1" ++
    "c0K9d1c0J9d1c0K9d1c0J9d1c0L9d440M9d1c0L9q000M9d1c0L9d1c0M9d1c0L9d1c0M9d1c0L9d1c0M9d1c0L9d1c0" ++
    "M9d1c0L9d1c0M9q000Lasw00M7x6o0Lasw00M7x6o0Lasw00M7x6o0Lb5uo0M7k800Lb5uo0M7k800Lb5uo0M7x6o0La" ++
    "sw00M7x6o0Lasw00M7x6o0Lb5uo0M7k800Lb5uo0M7k800Lb5uo0M7k800Lb5uo0M7x6o0Lasw00M7x6o0Lasw00M7x6" ++
    "o0Lb5uo0M7k800N1vbzw0M|EET-2"),
  ("Europe/Kirov",
    "11928,10800,18000d,14400,14400,18000d,14400d,10800,14400,10800|-qcx400B5q5zo0Dqi27w0C9et80D9" ++
    "d440C9et80D9d440C9et80D9eys0C9d6w0E9d1c0F9d1c0E9d1c0F9d1c0E9d1c0F9d1c0E9d1c0F9d1c0E9d1c0G9d4" ++
    "40H9d1c0G9q000H9d1c0Eipzw0G9d440H9d1c0G9d1c0H9d1c0G9d1c0H9d1c0G9d1c0H9q000Gasw00H7x6o0Gasw00" ++
    "H7x6o0Gasw00H7x6o0Gb5uo0H7k800Gb5uo0H7k800Gb5uo0H7x6o0Gasw00H7x6o0Gasw00H7x6o0Gb5uo0H7k800Gb" ++
    "5uo0H7k800Gb5uo0H7k800Gb5uo0H7x6o0Gasw00H7x6o0Gasw00H7x6o0Gb5uo0H7k800I1vbzw0H|MSK-3"),
  ("Europe/Kyiv",
    "7324,7324,7200,10800,3600,7200d,7200d,14400d,10800,14400d,10800d,7200,10800d,7200,10800d|-1a" ++
    "yy8bgBn4x6o0C37a03gD5vd6k0Gkzv40E7k800F9q000E1oyg0Djipzs0H9et80D9d440H9et80D9d440H9et80D9eys" ++
    "0H9d6w0I9d1c0J9d1c0I9d1c0J9d1c0I9d1c0J9d1c0I9d1c0J9d1c0I9d1c0J9d1c0I9d1c0J51ek0Kneqw0L9d1c0M" ++
    "9d1c0L9d1c0M9d1c0L9d1c0M9d1c0L9d1c0M9d1c0L9q000Masys0N7x6o0Oasw00N7x6o0Oasw00N7x6o0Ob5uo0N7k" ++
    "800Ob5uo0N7k800Ob5uo0N7x6o0Oasw00N7x6o0Oasw00N7x6o0Ob5uo0N7k800Ob5uo0N7k800Ob5uo0N7k800Ob5uo" ++
    "0N7x6o0Oasw00N7x6o0Oasw00N7x6o0Ob5uo0N7k800Ob5uo0N7k800Ob5uo0N7x6o0Oasw00N7x6o0Oasw00N7x6o0O" ++
    "asw00N7x6o0Ob5uo0N7k800Ob5uo0N7k800Ob5uo0N7x6o0Oasw00N7x6o0Oasw00N7x6o0Ob5uo0N7k800Ob5uo0N7k" ++
    "800Ob5uo0N7x6o0Oasw00N7x6o0Oasw00N7x6o0Oasw00N7x6o0Ob5uo0N7k800Ob5uo0N7k800Ob5uo0N7x6o0Oasw0" ++
    "0N7x6o0Oasw00N7x6o0Ob5uo0N7k800Ob5uo0N7k800Ob5uo0N7k800Ob5uo0N7x6o0Oasw00N7x6o0Oasw00N|EET-2" ++
    "EEST,M3.5.0/3,M10.5.0/4"),
  ("Europe/Lisbon",
    "-2205,3600d,0,3600d,0,7200d,0,3600,3600d,3600,7200d,3600d,0|-18vsgyrAem0zmrG2bufw0B6zxg0C668" ++
    "00Bbq580C71s40Bbq580C71s40Bbq580C73ms0Bbq580C71s40Bbq580C1b2g00D8so00Est1c0D8n400E9q000D902o" ++
    "0Ea2yo0D902o0Ea2yo0D8n400Est1c0D8n400E9d1c0D9d1c0Esg2o0D9d1c0E902o0D9q000Ea2yo0D8n400E9d1c0D" ++
    "9d1c0E902o0D9q000Ea2yo0Db5uo0E51hc0Dbmio0E99c00D9ew00E88ao0D25p80F5reo0D3lpg0E779c0D1sqk0F6u" ++
    "ao0D38qs0E6uao0D25p80F6hc00D38qs0E6uao0D25p80F6hc00D38qs0E8a5c0D9d1c0E9d9o0D9d1c0E9d1c0D9d1c" ++
    "0E9d1c0D9d1c0E9d1c0D9d1c0E9d1c0D9q000E9d1c0D9d1c0E9d1c0D9d1c0E9d1c0D9d1c0E9d1c0D9d1c0E9d1c0D" ++
    "9q000E9d1c0D9d1c0E9d1c0D9d1c0E9d1c0D9d1c0E9d1c0D9d1c0E9d1c0D9d1c0E9d1c0D9q000E9d1c0D9d1c0E9d" ++
    "1c0D9d1c0E9d1c0D9d1c0E9d1c0D9d1c0H57ljs0C9d1c0D9d1c0E9q2s0D9d1c0E9d1c0D9d1c0E9q000D902o0E9cy" ++
    "k0D9d1c0E9d1c0D9d1c0E9d1c0D9d1c0E9d1c0D9q000E9d1c0D9d1c0E9d440I9d1c0G9d1c0I9d1c0G9d1c0I9d1c0" ++
    "G9d1c0I9d1c0G9d1c0I9q000G9d1c0I9d1c0G9d1c0I9d1c0J9d1c0K9d1c0J9d1c0K9d1c0J9d1c0K9d1c0J9q000Ia" ++
    "sw00G7x6o0Iasw00G7x6o0Iasw00G7x6o0Ib5uo0G7k800Ib5uo0G7k800Ib5uo0G7x6o0Iasw00G7x6o0Iasw00G7x6" ++
    "o0Ib5uo0G7k800Ib5uo0G7k800Ib5uo0G7k800Ib5uo0G7x6o0Iasw00G7x6o0Iasw00G7x6o0Ib5uo0G7k800Ib5uo0" ++
    "G7k800Ib5uo0G7x6o0Iasw00G7x6o0Iasw00G7x6o0Iasw00G7x6o0Ib5uo0G7k800Ib5uo0G7k800Ib5uo0G7x6o0Ia" ++
    "sw00G7x6o0Iasw00G7x6o0Ib5uo0G7k800Ib5uo0G7k800Ib5uo0G7x6o0Iasw00G7x6o0Iasw00G7x6o0Iasw00G7x6" ++
    "o0Ib5uo0G7k800Ib5uo0G7k800Ib5uo0G7x6o0Iasw00G7x6o0Iasw00G7x6o0Ib5uo0G7k800Ib5uo0G7k800Ib5uo0" ++
    "G7k800Ib5uo0G7x6o0Iasw00G7x6o0Iasw00G|WET0WEST,M3.5.0/1,M10.5.0"),
  ("Europe/Ljubljana",
    "3484,3600,3600,7200d,7200d,7200d,3600|-18vslcsBtwhmgsEswz00C7k800D9q000C9d1c0D9d1c0C9d1c0D8l" ++
    "9c0Cjl1hc0F9d1c0G9d1c0F9q000G9d1c0F9d1c0G9d1c0F9d1c0G9d1c0F9d1c0G9d1c0F9d1c0G9d1c0F9d1c0G9d1" ++
    "c0F9q000G9d1c0F9d1c0G9d1c0F9d1c0G9d1c0F9d1c0G9d1c0F9d1c0G9d1c0F9d1c0G9q000Fasw00G7x6o0Fasw00" ++
    "G7x6o0Fasw00G7x6o0Fb5uo0G7k800Fb5uo0G7k800Fb5uo0G7x6o0Fasw00G7x6o0Fasw00G7x6o0Fb5uo0G7k800Fb" ++
    "5uo0G7k800Fb5uo0G7k800Fb5uo0G7x6o0Fasw00G7x6o0Fasw00G7x6o0Fb5uo0G7k800Fb5uo0G7k800Fb5uo0G7x6" ++
    "o0Fasw00G7x6o0Fasw00G7x6o0Fasw00G7x6o0Fb5uo0G7k800Fb5uo0G7k800Fb5uo0G7x6o0Fasw00G7x6o0Fasw00" ++
    "G7x6o0Fb5uo0G7k800Fb5uo0G7k800Fb5uo0G7x6o0Fasw00G7x6o0Fasw00G7x6o0Fasw00G7x6o0Fb5uo0G7k800Fb" ++
    "5uo0G7k800Fb5uo0G7x6o0Fasw00G7x6o0Fasw00G7x6o0Fb5uo0G7k800Fb5uo0G7k800Fb5uo0G7k800Fb5uo0G7x6" ++
    "o0Fasw00G7x6o0Fasw00G|CET-1CEST,M3.5.0,M10.5.0/3"),
  ("Europe/London",
    "-75,3600d,0,7200d,0,3600,3600d,0|-1rprx9xEzqf9hxB6uao0C9q000B8c000C9o5c0B9ruo0C9b6o0B9ew00C9" ++
    "b6o0Bauqo0C88ao0B9ew00C8y800Ba2yo0Ca2yo0B7k800Casw00B8a5c0Casw00B8n400Ca2yo0B8n400C9q000B902" ++
    "o0Cafxc0B8n400Ca2yo0B8n400C9q000B902o0Ca2yo0B8n400Ca2yo0B8n400C9q000B9d1c0Ca2yo0B8n400C9q000" ++
    "B902o0Ca2yo0B8n400Ca2yo0B8n400C9q000B902o0Ca2yo0Bb5uo0C51hc0Bmbmk0D51hc0Bc8qo0D6hc00Bc8qo0D6" ++
    "uao0Bbvs00D8n400Ba4tc0D5clc0B4bms0C9q000B902o0C8a5c0B1frw0D64dc0B4bms0C6uao0Bbvs00C7x6o0Basw" ++
    "00C8n400B9q000C902o0B9q000C9d1c0B9q000C902o0B8n400C9q000B902o0Ca2yo0B8n400Cafxc0B8n400C9q000" ++
    "B902o0Ca2yo0B8n400Ca2yo0B8n400C9q000B902o0C902o0Bb5uo0C7k800Bb5uo0C7x6o0Basw00C7k800Bb5uo0C7" ++
    "k800Bb5uo0C7k800Bb5uo0C7k800Bbitc0C5reo0Bcyfo0F1kjf00H779c0Bbitc0C779c0Bbitc0C779c0Bbitc0C77" ++
    "9c0Bbitc0C7k800Bb5uo0C7k800Bb5uo0C7k800Bbitc0C779c0Bbitc0C779c0Bbitc0C7x3w0Gasw00H7x6o0Gasw0" ++
    "0H7x6o0Gasw00H7x6o0Gb5uo0H7x6o0Gasw00H7x6o0Gasw00H7x6o0Gasw00H7x6o0Gasw00H7x6o0Gb5uo0H7k800G" ++
    "b5uo0H7x6o0Gasw00H7x6o0Gasw00H7x6o0Gasw00H7x6o0Gasw00H7x6o0Gasw00H8a5c0Gasw00H7x6o0Gasw00H7x" ++
    "6o0Gasw00H7x6o0Gb5uo0H7k800Gb5uo0H7k800Gb5uo0H7x6o0Gasw00H7x6o0Gasw00H7x6o0Gb5uo0H7k800Gb5uo" ++
    "0H7k800Gb5uo0H7k800Gb5uo0H7x6o0Gasw00H7x6o0Gasw00H7x6o0Gb5uo0H7k800Gb5uo0H7k800Gb5uo0H7x6o0G" ++
    "asw00H7x6o0Gasw00H7x6o0Gasw00H7x6o0Gb5uo0H7k800Gb5uo0H7k800Gb5uo0H7x6o0Gasw00H7x6o0Gasw00H7x" ++
    "6o0Gb5uo0H7k800Gb5uo0H7k800Gb5uo0H7x6o0Gasw00H7x6o0Gasw00H7x6o0Gasw00H7x6o0Gb5uo0H7k800Gb5uo" ++
    "0H7k800Gb5uo0H7x6o0Gasw00H7x6o0Gasw00H7x6o0Gb5uo0H7k800Gb5uo0H7k800Gb5uo0H7k800Gb5uo0H7x6o0G" ++
    "asw00H7x6o0Gasw00H|GMT0BST,M3.5.0/1,M10.5.0"),
  ("Europe/Luxembourg",
    "1476,7200d,3600,7200d,3600,3600d,0,0,3600d,3600,7200d,7200d,7200d,3600|-y89550C68l290B75hg0C" ++
    "ast80B796s0Cat1k0D7x6o0E3lh40G4zmo0Fb6300G6u2c0Fcytk0G7at40Fbktk0G7rh40Fa31g0Ga2vw0F8n9k0G8z" ++
    "x40F9q2s0G9et80F9b9g0Ga2vw0F8n6s0G9px80F905g0Ga2vw0F905g0Ga2vw0F8ncc0H9q000I902o0Ha2yo0I8n40" ++
    "0H9d1c0I9d1c0H902o0Ia2yo0H9d1c0I9d1c0H902o0I9q000Ha2yo0I8n400H9d1c0I9d1c0H902o0I9q000Ha2yo0I" ++
    "b5uo0H51hc0I42ao0L1aeak0J7k800K9q000J9d1c0K8n400Ca2yo0D8l9c0Eclpc0D79400Efwu800M902o0N9q000M" ++
    "9d1c0N9d1c0M9d1c0N9q000M902o0N9d1c0M9d1c0N9d1c0M9d1c0N9d1c0M9d1c0N9d1c0M9q000N9d1c0M9d1c0N9d" ++
    "1c0M9d1c0N9d1c0M9d1c0N9d1c0M9d1c0N9d1c0M9d1c0N9d1c0M9q000N9d1c0M9d1c0N9d1c0M9d1c0N9d1c0M9d1c" ++
    "0N9d1c0M9d1c0N9d1c0M9d1c0N9q000Masw00N7x6o0Masw00N7x6o0Masw00N7x6o0Mb5uo0N7k800Mb5uo0N7k800M" ++
    "b5uo0N7x6o0Masw00N7x6o0Masw00N7x6o0Mb5uo0N7k800Mb5uo0N7k800Mb5uo0N7k800Mb5uo0N7x6o0Masw00N7x" ++
    "6o0Masw00N7x6o0Mb5uo0N7k800Mb5uo0N7k800Mb5uo0N7x6o0Masw00N7x6o0Masw00N7x6o0Masw00N7x6o0Mb5uo" ++
    "0N7k800Mb5uo0N7k800Mb5uo0N7x6o0Masw00N7x6o0Masw00N7x6o0Mb5uo0N7k800Mb5uo0N7k800Mb5uo0N7x6o0M" ++
    "asw00N7x6o0Masw00N7x6o0Masw00N7x6o0Mb5uo0N7k800Mb5uo0N7k800Mb5uo0N7x6o0Masw00N7x6o0Masw00N7x" ++
    "6o0Mb5uo0N7k800Mb5uo0N7k800Mb5uo0N7k800Mb5uo0N7x6o0Masw00N7x6o0Masw00N|CET-1CEST,M3.5.0,M10." ++
    "5.0/3"),
  ("Europe/Madrid",
    "-884,3600d,0,7200d,0,7200d,3600,7200d,3600,7200d,3600|-100edc0E90sik0B8yas0C9cyk0B9eys0C2d2v" ++
    "w0B8sqs0Cssyk0B8n6s0C9px80B905g0Ca2yo0B902o0Ca2vw0B8n6s0C40lh80B5k2s0C9cyk0B1frw0D7z1c0Bj1c8" ++
    "0C8a2k0G13yt80F685g0Gbrzw0F8n6s0Ga2vw0F8n6s0Ga2vw0F8n6s0Ga2vw0F8n6s0G1clx80F7x9g0Gcswik0F905" ++
    "g0G9px80F905g0G8zzw0F9d440G9px80F905g0G9q5k0H9d1c0I9d1c0J9d1c0K9q000J902o0K9d1c0J9d1c0K9d1c0" ++
    "J9d1c0K9d1c0J9d1c0K9d1c0J9q000K9d1c0J9d1c0K9d1c0J9d1c0K9d1c0J9d1c0K9d1c0J9d1c0K9d1c0J9d1c0K9" ++
    "d1c0J9q000K9d1c0J9d1c0K9d1c0J9d1c0K9d1c0J9d1c0K9d1c0J9d1c0K9d1c0J9d1c0K9q000Jasw00K7x6o0Jasw" ++
    "00K7x6o0Jasw00K7x6o0Jb5uo0K7k800Jb5uo0K7k800Jb5uo0K7x6o0Jasw00K7x6o0Jasw00K7x6o0Jb5uo0K7k800" ++
    "Jb5uo0K7k800Jb5uo0K7k800Jb5uo0K7x6o0Jasw00K7x6o0Jasw00K7x6o0Jb5uo0K7k800Jb5uo0K7k800Jb5uo0K7" ++
    "x6o0Jasw00K7x6o0Jasw00K7x6o0Jasw00K7x6o0Jb5uo0K7k800Jb5uo0K7k800Jb5uo0K7x6o0Jasw00K7x6o0Jasw" ++
    "00K7x6o0Jb5uo0K7k800Jb5uo0K7k800Jb5uo0K7x6o0Jasw00K7x6o0Jasw00K7x6o0Jasw00K7x6o0Jb5uo0K7k800" ++
    "Jb5uo0K7k800Jb5uo0K7x6o0Jasw00K7x6o0Jasw00K7x6o0Jb5uo0K7k800Jb5uo0K7k800Jb5uo0K7k800Jb5uo0K7" ++
    "x6o0Jasw00K7x6o0Jasw00K|CET-1CEST,M3.5.0,M10.5.0/3"),
  ("Europe/Malta",
    "3484,7200d,3600,3600,7200d,7200d,3600|-13qyw0sCbsbx8sB64ak0C9d440B9et80C88dg0Baunw0C7ig40Bb5" ++
    "rw0C8n6s0B9cyk0Caau2s0B18r9k0D7k800E9q000D9b6o0E8n400Da4tc0B8j940C9f1k0Eafxc0D89zs0Eafxc0D7k" ++
    "dk0Eb5uo0D979rs0E6h980Ccls40E64dc0Dclpc0E64dc0Dcyo00E64dc0Dclpc0E64dc0Dc8qo0E6hc00Dclpc0E6hc" ++
    "00D9b6o0E9d1c0Dahs00E7m2o0Db45k0B7x3w0Casys0B7x3w0Casys0B7x3w0Casys0B7x3w0Casys0B7x3w0Ca4w40" ++
    "B8y580C9q2s0F9d1c0G9d1c0F9d1c0G9d1c0F9d1c0G9d1c0F9q000G9d1c0F9d1c0G9d1c0F9d1c0G9d1c0F9d1c0G9" ++
    "d1c0F9d1c0G9d1c0F9d1c0G9d1c0F9q000G9d1c0F9d1c0G9d1c0F9d1c0G9d1c0F9d1c0G9d1c0F9d1c0G9d1c0F9d1" ++
    "c0G9q000Fasw00G7x6o0Fasw00G7x6o0Fasw00G7x6o0Fb5uo0G7k800Fb5uo0G7k800Fb5uo0G7x6o0Fasw00G7x6o0" ++
    "Fasw00G7x6o0Fb5uo0G7k800Fb5uo0G7k800Fb5uo0G7k800Fb5uo0G7x6o0Fasw00G7x6o0Fasw00G7x6o0Fb5uo0G7" ++
    "k800Fb5uo0G7k800Fb5uo0G7x6o0Fasw00G7x6o0Fasw00G7x6o0Fasw00G7x6o0Fb5uo0G7k800Fb5uo0G7k800Fb5u" ++
    "o0G7x6o0Fasw00G7x6o0Fasw00G7x6o0Fb5uo0G7k800Fb5uo0G7k800Fb5uo0G7x6o0Fasw00G7x6o0Fasw00G7x6o0" ++
    "Fasw00G7x6o0Fb5uo0G7k800Fb5uo0G7k800Fb5uo0G7x6o0Fasw00G7x6o0Fasw00G7x6o0Fb5uo0G7k800Fb5uo0G7" ++
    "k800Fb5uo0G7k800Fb5uo0G7x6o0Fasw00G7x6o0Fasw00G|CET-1CEST,M3.5.0,M10.5.0/3"),
  ("Europe/Minsk",
    "6616,6600,7200,10800,3600,7200d,7200d,14400d,10800,14400d,10800d,7200,10800|-1ayy7rsBn4x6ogC" ++
    "379zjcD5r1mk0Gpbf40E7k800F9q000E9d1c0F4oac0Dj6dmk0H9et80D9d440H9et80D9d440H9et80D9eys0H9d6w0" ++
    "I9d1c0J9d1c0I9d1c0J9d1c0I9d1c0J9d1c0I9d1c0J9d1c0I9d1c0J9d1c0Isg2o0K9d440L9d1c0K9d1c0L9d1c0K9" ++
    "d1c0L9d1c0K9d1c0L9d1c0K9d1c0L9q000Kasw00L7x6o0Kasw00L7x6o0Kasw00L7x6o0Kb5uo0L7k800Kb5uo0L7k8" ++
    "00Kb5uo0L7x6o0Kasw00L7x6o0Kasw00L7x6o0Kb5uo0L7k800Kb5uo0L7k800Kb5uo0L7k800Kb5uo0L7x6o0Kasw00" ++
    "L7x6o0Kasw00L7x6o0Kb5uo0L7k800Mdzv4zjM|<+03>-3"),
  ("Europe/Monaco",
    "1772,561,3600d,0,3600d,7200d,0,7200d,3600,7200d,3600|-14hnyp8B9tlnlnG2pzpnlC5luo0D8y800Ca4tc" ++
    "0D7vc00Cauqo0D7idc0Cb7pc0D6sg00Ccyo00D7ayo0Cbko00D7rmo0Ca2yo0Dbvs00C6uao0D902o0C9q000D9d1c0C" ++
    "9d1c0Da2yo0C8n400D9q000C902o0Da2yo0C902o0Da2yo0C8n400D9q000C902o0Da2yo0C8n400D9d1c0C9d1c0D90" ++
    "2o0Ca2yo0D9d1c0C9d1c0D902o0C9q000Da2yo0C8n400D9d1c0C9d1c0D902o0C9q000Da2yo0Cb5uo0D51po0Emdbo" ++
    "0F7x3w0E7x9g0Fc8w80E7k800F9q000E9d1c0F9nzs0E922w0F8l9c0Ifxlx80H9cyk0I9q5k0J902o0K9q000J9d1c0" ++
    "K9d1c0J9d1c0K9q000J902o0K9d1c0J9d1c0K9d1c0J9d1c0K9d1c0J9d1c0K9d1c0J9q000K9d1c0J9d1c0K9d1c0J9" ++
    "d1c0K9d1c0J9d1c0K9d1c0J9d1c0K9d1c0J9d1c0K9d1c0J9q000K9d1c0J9d1c0K9d1c0J9d1c0K9d1c0J9d1c0K9d1" ++
    "c0J9d1c0K9d1c0J9d1c0K9q000Jasw00K7x6o0Jasw00K7x6o0Jasw00K7x6o0Jb5uo0K7k800Jb5uo0K7k800Jb5uo0" ++
    "K7x6o0Jasw00K7x6o0Jasw00K7x6o0Jb5uo0K7k800Jb5uo0K7k800Jb5uo0K7k800Jb5uo0K7x6o0Jasw00K7x6o0Ja" ++
    "sw00K7x6o0Jb5uo0K7k800Jb5uo0K7k800Jb5uo0K7x6o0Jasw00K7x6o0Jasw00K7x6o0Jasw00K7x6o0Jb5uo0K7k8" ++
    "00Jb5uo0K7k800Jb5uo0K7x6o0Jasw00K7x6o0Jasw00K7x6o0Jb5uo0K7k800Jb5uo0K7k800Jb5uo0K7x6o0Jasw00" ++
    "K7x6o0Jasw00K7x6o0Jasw00K7x6o0Jb5uo0K7k800Jb5uo0K7k800Jb5uo0K7x6o0Jasw00K7x6o0Jasw00K7x6o0Jb" ++
    "5uo0K7k800Jb5uo0K7k800Jb5uo0K7k800Jb5uo0K7x6o0Jasw00K7x6o0Jasw00K|CET-1CEST,M3.5.0,M10.5.0/3"),
  ("Europe/Moscow",
    "9017,9017,12679d,9079,16279d,14400d,10800,14400d,18000d,7200,10800,14400d,10800d,7200,14400," ++
    "14400d,10800|-1ayy9mhBj1sw00DipzuaC97hc0D7yyk0E5i840Cd9p80E1jwk7F2cvk0Gs8o00H1qvw0I8fpc0H1jm" ++
    "s0Gis040J412as0Gqi27w0H9et80G9d440H9et80G9d440H9et80G9eys0H9d6w0K9d1c0L9d1c0K9d1c0L9d1c0K9d1" ++
    "c0L9d1c0K9d1c0L9d1c0K9d1c0L9d1c0K9d1c0L9q000K9d1c0M9d440N5reo0K3ljw0L9d1c0K9d1c0L9d1c0K9d1c0" ++
    "L9d1c0K9d1c0L9d1c0K9q000Lasw00K7x6o0Lasw00K7x6o0Lasw00K7x6o0Lb5uo0K7k800Lb5uo0K7k800Lb5uo0K7" ++
    "x6o0Lasw00K7x6o0Lasw00K7x6o0Lb5uo0K7k800Lb5uo0K7k800Lb5uo0K7k800Lb5uo0K7x6o0Lasw00K7x6o0Lasw" ++
    "00K7x6o0Lb5uo0K7k800O1vbzw0K|MSK-3"),
  ("Europe/Oslo",
    "2580,7200d,3600,3600,7200d,7200d,3600|-1353tzoCb5svboB6qfs0Ccgcqo0B15tsc0D7k800E9q000D9d1c0E" ++
    "9d1c0D9d1c0E9d1c0D70q5c0E9q000D9d1c0E9d1c0D9d1c0E9d1c0D9d1c0E9d1c0D9d1c0E9d1c0D9d1c0E9q000Db" ++
    "5uo0E7k800D7law00F902o0G9d1c0F9d1c0G9d1c0F9d1c0G9d1c0F9d1c0G9d1c0F9q000G9d1c0F9d1c0G9d1c0F9d" ++
    "1c0G9d1c0F9d1c0G9d1c0F9d1c0G9d1c0F9d1c0G9d1c0F9q000G9d1c0F9d1c0G9d1c0F9d1c0G9d1c0F9d1c0G9d1c" ++
    "0F9d1c0G9d1c0F9d1c0G9q000Fasw00G7x6o0Fasw00G7x6o0Fasw00G7x6o0Fb5uo0G7k800Fb5uo0G7k800Fb5uo0G" ++
    "7x6o0Fasw00G7x6o0Fasw00G7x6o0Fb5uo0G7k800Fb5uo0G7k800Fb5uo0G7k800Fb5uo0G7x6o0Fasw00G7x6o0Fas" ++
    "w00G7x6o0Fb5uo0G7k800Fb5uo0G7k800Fb5uo0G7x6o0Fasw00G7x6o0Fasw00G7x6o0Fasw00G7x6o0Fb5uo0G7k80" ++
    "0Fb5uo0G7k800Fb5uo0G7x6o0Fasw00G7x6o0Fasw00G7x6o0Fb5uo0G7k800Fb5uo0G7k800Fb5uo0G7x6o0Fasw00G" ++
    "7x6o0Fasw00G7x6o0Fasw00G7x6o0Fb5uo0G7k800Fb5uo0G7k800Fb5uo0G7x6o0Fasw00G7x6o0Fasw00G7x6o0Fb5" ++
    "uo0G7k800Fb5uo0G7k800Fb5uo0G7k800Fb5uo0G7x6o0Fasw00G7x6o0Fasw00G|CET-1CEST,M3.5.0,M10.5.0/3"),
  ("Europe/Paris",
    "561,561,3600d,0,3600d,0,3600,7200d,7200d,7200d,3600,7200d,3600|-154gb3lBafgo00F2qx1nlC5luo0D" ++
    "8y800Ca4tc0D7vc00Cauqo0D7idc0Cb7pc0D6sg00Ccyo00D7ayo0Cbko00D7rmo0Ca2yo0Dbvs00C6uao0D902o0C9q" ++
    "000D9d1c0C9d1c0Da2yo0C8n400D9q000C902o0Da2yo0C902o0Da2yo0C8n400D9q000C902o0Da2yo0C8n400D9d1c" ++
    "0C9d1c0D902o0Ca2yo0D9d1c0C9d1c0D902o0C9q000Da2yo0C8n400D9d1c0C9d1c0D902o0C9q000Da2yo0Cb5uo0D" ++
    "51po0E5p8w0I18rcc0G7k800H9q000G9d1c0H7efo0J29k40E922w0J8l9c0Kfxlx80I9cyk0K9q5k0L902o0M9q000L" ++
    "9d1c0M9d1c0L9d1c0M9q000L902o0M9d1c0L9d1c0M9d1c0L9d1c0M9d1c0L9d1c0M9d1c0L9q000M9d1c0L9d1c0M9d" ++
    "1c0L9d1c0M9d1c0L9d1c0M9d1c0L9d1c0M9d1c0L9d1c0M9d1c0L9q000M9d1c0L9d1c0M9d1c0L9d1c0M9d1c0L9d1c" ++
    "0M9d1c0L9d1c0M9d1c0L9d1c0M9q000Lasw00M7x6o0Lasw00M7x6o0Lasw00M7x6o0Lb5uo0M7k800Lb5uo0M7k800L" ++
    "b5uo0M7x6o0Lasw00M7x6o0Lasw00M7x6o0Lb5uo0M7k800Lb5uo0M7k800Lb5uo0M7k800Lb5uo0M7x6o0Lasw00M7x" ++
    "6o0Lasw00M7x6o0Lb5uo0M7k800Lb5uo0M7k800Lb5uo0M7x6o0Lasw00M7x6o0Lasw00M7x6o0Lasw00M7x6o0Lb5uo" ++
    "0M7k800Lb5uo0M7k800Lb5uo0M7x6o0Lasw00M7x6o0Lasw00M7x6o0Lb5uo0M7k800Lb5uo0M7k800Lb5uo0M7x6o0L" ++
    "asw00M7x6o0Lasw00M7x6o0Lasw00M7x6o0Lb5uo0M7k800Lb5uo0M7k800Lb5uo0M7x6o0Lasw00M7x6o0Lasw00M7x" ++
    "6o0Lb5uo0M7k800Lb5uo0M7k800Lb5uo0M7k800Lb5uo0M7x6o0Lasw00M7x6o0Lasw00M|CET-1CEST,M3.5.0,M10." ++
    "5.0/3"),
  ("Europe/Prague",
    "3464,3464,7200d,3600,7200d,3600,0,7200d,3600|-1qmkw08Blsd1c0Dcttug8C7ves0Da4yw0E7x6o0Fasw00E" ++
    "7x6o0Fb8qdc0E1cm000F7k800E9q000F9d1c0E9d1c0F9d1c0E9d1c0Fb5uo0E7vc00F2vs40G4bk00D2vmk0E8n400F" ++
    "a2yo0E8n400F9o5c0E91xc0Ffe6000H9d1c0I9q000H902o0I9d1c0H9d1c0I9d1c0H9d1c0I9d1c0H9d1c0I9d1c0H9" ++
    "q000I9d1c0H9d1c0I9d1c0H9d1c0I9d1c0H9d1c0I9d1c0H9d1c0I9d1c0H9d1c0I9d1c0H9q000I9d1c0H9d1c0I9d1" ++
    "c0H9d1c0I9d1c0H9d1c0I9d1c0H9d1c0I9d1c0H9d1c0I9q000Hasw00I7x6o0Hasw00I7x6o0Hasw00I7x6o0Hb5uo0" ++
    "I7k800Hb5uo0I7k800Hb5uo0I7x6o0Hasw00I7x6o0Hasw00I7x6o0Hb5uo0I7k800Hb5uo0I7k800Hb5uo0I7k800Hb" ++
    "5uo0I7x6o0Hasw00I7x6o0Hasw00I7x6o0Hb5uo0I7k800Hb5uo0I7k800Hb5uo0I7x6o0Hasw00I7x6o0Hasw00I7x6" ++
    "o0Hasw00I7x6o0Hb5uo0I7k800Hb5uo0I7k800Hb5uo0I7x6o0Hasw00I7x6o0Hasw00I7x6o0Hb5uo0I7k800Hb5uo0" ++
    "I7k800Hb5uo0I7x6o0Hasw00I7x6o0Hasw00I7x6o0Hasw00I7x6o0Hb5uo0I7k800Hb5uo0I7k800Hb5uo0I7x6o0Ha" ++
    "sw00I7x6o0Hasw00I7x6o0Hb5uo0I7k800Hb5uo0I7k800Hb5uo0I7k800Hb5uo0I7x6o0Hasw00I7x6o0Hasw00I|CE" ++
    "T-1CEST,M3.5.0,M10.5.0/3"),
  ("Europe/Riga",
    "5794,5794,9394d,7200,10800,3600,7200d,7200d,14400d,10800,14400d,10800d,7200,10800d,7200|-1ay" ++
    "y74yBjzalk0C7x6o0Ba4tc0C2mg00B3myns0D7fhlkyEgz180Hp5v40F7k800G9q000F9d1c0G9d1c0Fk7s0Ej14ns0I" ++
    "9et80E9d440I9et80E9d440I9et80E9eys0I9d6w0J9d1c0K9d1c0J9d1c0K9d1c0J9d1c0K9d1c0J9d1c0K9d1c0J9d" ++
    "1c0L9d440M9d1c0L9q000M9d1c0L9d1c0M9d1c0L9d1c0M9d1c0L9d1c0M9d1c0L9d1c0M9d1c0L9d1c0M9q000L9d1c" ++
    "0M9d440Nasw00O7x6o0Nasw00O7x6o0Nb5uo0Oqaao0Nb5uo0O7x6o0Nasw00O7x6o0Nasw00O7x6o0Nb5uo0O7k800N" ++
    "b5uo0O7k800Nb5uo0O7k800Nb5uo0O7x6o0Nasw00O7x6o0Nasw00O7x6o0Nb5uo0O7k800Nb5uo0O7k800Nb5uo0O7x" ++
    "6o0Nasw00O7x6o0Nasw00O7x6o0Nasw00O7x6o0Nb5uo0O7k800Nb5uo0O7k800Nb5uo0O7x6o0Nasw00O7x6o0Nasw0" ++
    "0O7x6o0Nb5uo0O7k800Nb5uo0O7k800Nb5uo0O7x6o0Nasw00O7x6o0Nasw00O7x6o0Nasw00O7x6o0Nb5uo0O7k800N" ++
    "b5uo0O7k800Nb5uo0O7x6o0Nasw00O7x6o0Nasw00O7x6o0Nb5uo0O7k800Nb5uo0O7k800Nb5uo0O7k800Nb5uo0O7x" ++
    "6o0Nasw00O7x6o0Nasw00O|EET-2EEST,M3.5.0/3,M10.5.0/4"),
  ("Europe/Rome",
    "2996,2996,7200d,3600,3600,7200d,3600,7200d|-1hs7rn8Be170v8Gbsds00C64ak0D9d440C9et80D88dg0Cau" ++
    "nw0D7ig40Cb5rw0D8n6s0C9cyk0Daau2s0C18r9k0E7k800F9q000E9d1c0F8l9c0Ea4tc0C8j940D9f1k0Fafxc0E89" ++
    "zs0Fafxc0E7kdk0Fb5uo0E979rs0F6h980Dcls40F64dc0Eclpc0F64dc0Ecyo00F64dc0Eclpc0F64dc0Ec8qo0F6hc" ++
    "00Eclpc0F6hc00Eclpc0F64dc0Ec8qo0F6hc00Eclpc0F64dc0Eclpc0F64dc0Ec8qo0F6hc00Eclpc0F6hc00Ec8qo0" ++
    "F6hc00E9q5k0H902o0G9d1c0H9d1c0G9d1c0H9d1c0G9d1c0H9d1c0G9d1c0H9q000G9d1c0H9d1c0G9d1c0H9d1c0G9" ++
    "d1c0H9d1c0G9d1c0H9d1c0G9d1c0H9d1c0G9d1c0H9q000G9d1c0H9d1c0G9d1c0H9d1c0G9d1c0H9d1c0G9d1c0H9d1" ++
    "c0G9d1c0H9d1c0G9q000Hasw00G7x6o0Hasw00G7x6o0Hasw00G7x6o0Hb5uo0G7k800Hb5uo0G7k800Hb5uo0G7x6o0" ++
    "Hasw00G7x6o0Hasw00G7x6o0Hb5uo0G7k800Hb5uo0G7k800Hb5uo0G7k800Hb5uo0G7x6o0Hasw00G7x6o0Hasw00G7" ++
    "x6o0Hb5uo0G7k800Hb5uo0G7k800Hb5uo0G7x6o0Hasw00G7x6o0Hasw00G7x6o0Hasw00G7x6o0Hb5uo0G7k800Hb5u" ++
    "o0G7k800Hb5uo0G7x6o0Hasw00G7x6o0Hasw00G7x6o0Hb5uo0G7k800Hb5uo0G7k800Hb5uo0G7x6o0Hasw00G7x6o0" ++
    "Hasw00G7x6o0Hasw00G7x6o0Hb5uo0G7k800Hb5uo0G7k800Hb5uo0G7x6o0Hasw00G7x6o0Hasw00G7x6o0Hb5uo0G7" ++
    "k800Hb5uo0G7k800Hb5uo0G7k800Hb5uo0G7x6o0Hasw00G7x6o0Hasw00G|CET-1CEST,M3.5.0,M10.5.0/3"),
  ("Europe/Samara",
    "12020,10800,14400,18000d,14400,18000d,14400d,10800,10800d,14400d,14400|-qcx400B5q5zo0Cqi27w0" ++
    "D9et80C9d440D9et80C9d440D9et80C9eys0D9d6w0E9d1c0F9d1c0E9d1c0F9d1c0E9d1c0F9d1c0E9d1c0F9d1c0E9" ++
    "d1c0G9d440H9d1c0G9q000H9d1c0I9d440H12w00C89zs0F9d1c0E9d1c0F9d1c0E9d1c0F9d1c0E9d1c0F9d1c0E9q0" ++
    "00Fasw00E7x6o0Fasw00E7x6o0Fasw00E7x6o0Fb5uo0E7k800Fb5uo0E7k800Fb5uo0E7x6o0Fasw00E7x6o0Fasw00" ++
    "E7x6o0Fb5uo0E7k800Fb5uo0E7k800Fb5uo0E7k800Fb5uo0E7x6o0Fasw00E7x6o0Fasw00E7x6o0Gb5xg0H7k800Ed" ++
    "zv7rjE|<+04>-4"),
  ("Europe/Sarajevo",
    "4420,3600,3600,7200d,7200d,7200d,3600|-18vsm2sBtwhn6sEswz00C7k800D9q000C9d1c0D9d1c0C9d1c0D8l" ++
    "9c0Cjl1hc0F9d1c0G9d1c0F9q000G9d1c0F9d1c0G9d1c0F9d1c0G9d1c0F9d1c0G9d1c0F9d1c0G9d1c0F9d1c0G9d1" ++
    "c0F9q000G9d1c0F9d1c0G9d1c0F9d1c0G9d1c0F9d1c0G9d1c0F9d1c0G9d1c0F9d1c0G9q000Fasw00G7x6o0Fasw00" ++
    "G7x6o0Fasw00G7x6o0Fb5uo0G7k800Fb5uo0G7k800Fb5uo0G7x6o0Fasw00G7x6o0Fasw00G7x6o0Fb5uo0G7k800Fb" ++
    "5uo0G7k800Fb5uo0G7k800Fb5uo0G7x6o0Fasw00G7x6o0Fasw00G7x6o0Fb5uo0G7k800Fb5uo0G7k800Fb5uo0G7x6" ++
    "o0Fasw00G7x6o0Fasw00G7x6o0Fasw00G7x6o0Fb5uo0G7k800Fb5uo0G7k800Fb5uo0G7x6o0Fasw00G7x6o0Fasw00" ++
    "G7x6o0Fb5uo0G7k800Fb5uo0G7k800Fb5uo0G7x6o0Fasw00G7x6o0Fasw00G7x6o0Fasw00G7x6o0Fb5uo0G7k800Fb" ++
    "5uo0G7k800Fb5uo0G7x6o0Fasw00G7x6o0Fasw00G7x6o0Fb5uo0G7k800Fb5uo0G7k800Fb5uo0G7k800Fb5uo0G7x6" ++
    "o0Fasw00G7x6o0Fasw00G|CET-1CEST,M3.5.0,M10.5.0/3"),
  ("Europe/Saratov",
    "11058,10800,18000d,14400,14400,18000d,14400d,10800,14400|-qcx400B5q5zo0Dqi27w0C9et80D9d440C9" ++
    "et80D9d440C9et80D9eys0C9d6w0E9d1c0F9d1c0E9d1c0F9d1c0E9d1c0F9d1c0E9d1c0G9d440H9d1c0G9d1c0H9d1" ++
    "c0G9q000H9d1c0Eipzw0G9d440H9d1c0G9d1c0H9d1c0G9d1c0H9d1c0G9d1c0H9q000Gasw00H7x6o0Gasw00H7x6o0" ++
    "Gasw00H7x6o0Gb5uo0H7k800Gb5uo0H7k800Gb5uo0H7x6o0Gasw00H7x6o0Gasw00H7x6o0Gb5uo0H7k800Gb5uo0H7" ++
    "k800Gb5uo0H7k800Gb5uo0H7x6o0Gasw00H7x6o0Gasw00H7x6o0Gb5uo0H7k800E1vbzw0H13m040Eb0x7rjE|<+04>" ++
    "-4"),
  ("Europe/Simferopol",
    "8184,8160,7200,10800,3600,7200d,7200d,14400d,10800,14400d,10800d,7200,10800d,7200,14400,1080" ++
    "0|-1ayy8zcBn4x6ooC37a0qoD5xiyk0Giu340E7k800F9q000E9d1c0Fiac0Djajmk0H9et80D9d440H9et80D9d440H" ++
    "9et80D9eys0H9d6w0I9d1c0J9d1c0I9d1c0J9d1c0I9d1c0J9d1c0I9d1c0J9d1c0I9d1c0J9d1c0Ieeio0Cwrpg0K9d" ++
    "1c0L9d1c0K9d1c0L9d1c0K1sl00H7kdk0I9d1c0J9d1c0I9pug0Jat4c0I7x9g0Masw00N7x6o0Masw00N7x6o0Mb5uo" ++
    "0N7k800Mb5uo0N7k800Mb5uo0N7x6o0Masw00N7x6o0Masw00N7x6o0Mb5uo0N7k800Mb5uo0N7k800Mb5uo0N7k800M" ++
    "b5uo0N7x6o0Masw00N7x6o0Masw00N7x6o0Mb5uo0N7k800Mb5uo0N7k800Mb5uo0N7x6o0Masw00N7x3w0Oasqg0I|M" ++
    "SK-3"),
  ("Europe/Skopje",
    "5144,3600,3600,7200d,7200d,7200d,3600|-18vsmmwBtwhnqwEswz00C7k800D9q000C9d1c0D9d1c0C9d1c0D8l" ++
    "9c0Cjl1hc0F9d1c0G9d1c0F9q000G9d1c0F9d1c0G9d1c0F9d1c0G9d1c0F9d1c0G9d1c0F9d1c0G9d1c0F9d1c0G9d1" ++
    "c0F9q000G9d1c0F9d1c0G9d1c0F9d1c0G9d1c0F9d1c0G9d1c0F9d1c0G9d1c0F9d1c0G9q000Fasw00G7x6o0Fasw00" ++
    "G7x6o0Fasw00G7x6o0Fb5uo0G7k800Fb5uo0G7k800Fb5uo0G7x6o0Fasw00G7x6o0Fasw00G7x6o0Fb5uo0G7k800Fb" ++
    "5uo0G7k800Fb5uo0G7k800Fb5uo0G7x6o0Fasw00G7x6o0Fasw00G7x6o0Fb5uo0G7k800Fb5uo0G7k800Fb5uo0G7x6" ++
    "o0Fasw00G7x6o0Fasw00G7x6o0Fasw00G7x6o0Fb5uo0G7k800Fb5uo0G7k800Fb5uo0G7x6o0Fasw00G7x6o0Fasw00" ++
    "G7x6o0Fb5uo0G7k800Fb5uo0G7k800Fb5uo0G7x6o0Fasw00G7x6o0Fasw00G7x6o0Fasw00G7x6o0Fb5uo0G7k800Fb" ++
    "5uo0G7k800Fb5uo0G7x6o0Fasw00G7x6o0Fasw00G7x6o0Fb5uo0G7k800Fb5uo0G7k800Fb5uo0G7k800Fb5uo0G7x6" ++
    "o0Fasw00G7x6o0Fasw00G|CET-1CEST,M3.5.0,M10.5.0/3"),
  ("Europe/Sofia",
    "5596,7016,7200,3600,7200d,10800d,7200,10800d,10800d,7200|-1ayy6zgB7s708kCp0d6uwD7k800E9q000D" ++
    "9d1c0E9d1c0D9d440Chqq240F9eys0C9o2k0F92040C9o2k0F90880C9pug0F90b00G9d1c0H9d1c0G9d1c0H9q000G9" ++
    "d1c0H9d1c0G9d1c0H9d1c0G9d1c0H9d1c0G9d1c0H9d1c0G9d1c0H9d1c0G9d1c0H9q000G9cvs0F9cyk0C9d440F9cy" ++
    "k0C9d440F9cyk0C9d440F9cyk0C9d440F9cyk0C9q2s0Fast80C7xhs0Iasw00J7x6o0Iasw00J7x6o0Ib5uo0J7k800" ++
    "Ib5uo0J7k800Ib5uo0J7x6o0Iasw00J7x6o0Iasw00J7x6o0Ib5uo0J7k800Ib5uo0J7k800Ib5uo0J7k800Ib5uo0J7" ++
    "x6o0Iasw00J7x6o0Iasw00J7x6o0Ib5uo0J7k800Ib5uo0J7k800Ib5uo0J7x6o0Iasw00J7x6o0Iasw00J7x6o0Iasw" ++
    "00J7x6o0Ib5uo0J7k800Ib5uo0J7k800Ib5uo0J7x6o0Iasw00J7x6o0Iasw00J7x6o0Ib5uo0J7k800Ib5uo0J7k800" ++
    "Ib5uo0J7x6o0Iasw00J7x6o0Iasw00J7x6o0Iasw00J7x6o0Ib5uo0J7k800Ib5uo0J7k800Ib5uo0J7x6o0Iasw00J7" ++
    "x6o0Iasw00J7x6o0Ib5uo0J7k800Ib5uo0J7k800Ib5uo0J7k800Ib5uo0J7x6o0Iasw00J7x6o0Iasw00J|EET-2EES" ++
    "T,M3.5.0/3,M10.5.0/4"),
  ("Europe/Stockholm",
    "4332,3614,3600,7200d,7200d,3600|-1bhq3ccBayjpvyC8jiakeD75hg0Cx5bew0E902o0F9d1c0E9d1c0F9d1c0E" ++
    "9d1c0F9d1c0E9d1c0F9d1c0E9q000F9d1c0E9d1c0F9d1c0E9d1c0F9d1c0E9d1c0F9d1c0E9d1c0F9d1c0E9d1c0F9d" ++
    "1c0E9q000F9d1c0E9d1c0F9d1c0E9d1c0F9d1c0E9d1c0F9d1c0E9d1c0F9d1c0E9d1c0F9q000Easw00F7x6o0Easw0" ++
    "0F7x6o0Easw00F7x6o0Eb5uo0F7k800Eb5uo0F7k800Eb5uo0F7x6o0Easw00F7x6o0Easw00F7x6o0Eb5uo0F7k800E" ++
    "b5uo0F7k800Eb5uo0F7k800Eb5uo0F7x6o0Easw00F7x6o0Easw00F7x6o0Eb5uo0F7k800Eb5uo0F7k800Eb5uo0F7x" ++
    "6o0Easw00F7x6o0Easw00F7x6o0Easw00F7x6o0Eb5uo0F7k800Eb5uo0F7k800Eb5uo0F7x6o0Easw00F7x6o0Easw0" ++
    "0F7x6o0Eb5uo0F7k800Eb5uo0F7k800Eb5uo0F7x6o0Easw00F7x6o0Easw00F7x6o0Easw00F7x6o0Eb5uo0F7k800E" ++
    "b5uo0F7k800Eb5uo0F7x6o0Easw00F7x6o0Easw00F7x6o0Eb5uo0F7k800Eb5uo0F7k800Eb5uo0F7k800Eb5uo0F7x" ++
    "6o0Easw00F7x6o0Easw00F|CET-1CEST,M3.5.0,M10.5.0/3"),
  ("Europe/Tallinn",
    "5940,5940,7200d,3600,3600,7200,10800,7200d,14400d,10800,14400d,10800d,7200,7200,10800d|-1ayy" ++
    "790Bjvj9c0E3re10C7x6o0Det6g0Bygov0Fa1zgd0Gktx80Hl94g0D7k800C9q000D9d1c0C8uac0Gj27mk0I9et80G9" ++
    "d440I9et80G9d440I9et80G9eys0I9d6w0J9d1c0K9d1c0J9d1c0K9d1c0J9d1c0K9d1c0J9d1c0K9d1c0J9d1c0L9d4" ++
    "40M9d1c0L9q000M9d1c0L9d1c0M9d1c0L9d1c0M9d1c0L9d1c0M9d1c0L9d1c0M9d1c0L9d1c0M9q000Lasw00M7x6o0" ++
    "Lasw00M7x6o0Lasys0N7x6o0Ob5uo0F19dc00Oasw00N7x6o0Oasw00N7x6o0Ob5uo0N7k800Ob5uo0N7k800Ob5uo0N" ++
    "7k800Ob5uo0N7x6o0Oasw00N7x6o0Oasw00N7x6o0Ob5uo0N7k800Ob5uo0N7k800Ob5uo0N7x6o0Oasw00N7x6o0Oas" ++
    "w00N7x6o0Oasw00N7x6o0Ob5uo0N7k800Ob5uo0N7k800Ob5uo0N7x6o0Oasw00N7x6o0Oasw00N7x6o0Ob5uo0N7k80" ++
    "0Ob5uo0N7k800Ob5uo0N7x6o0Oasw00N7x6o0Oasw00N7x6o0Oasw00N7x6o0Ob5uo0N7k800Ob5uo0N7k800Ob5uo0N" ++
    "7x6o0Oasw00N7x6o0Oasw00N7x6o0Ob5uo0N7k800Ob5uo0N7k800Ob5uo0N7k800Ob5uo0N7x6o0Oasw00N7x6o0Oas" ++
    "w00N|EET-2EEST,M3.5.0/3,M10.5.0/4"),
  ("Europe/Tirane",
    "4760,3600,7200d,3600,7200d|-t85vo8Bdt2gw8C18pew0B7k800Cm800Bg7ot40C7rjw0Bautg0C7x3w0Bayis0C7" ++
    "x3w0Bb5xg0C7k580Bb42s0C7lzw0Bb42s0C7lzw0Bb42s0C7x3w0Bahus0C7x3w0Bb5xg0C7x3w0Ba4w40C8jbw0B9ey" ++
    "s0C9d6w0D9d1c0E9d1c0D9d1c0E9d1c0D9d1c0E9d1c0D9d1c0E9d1c0D9d1c0E9d1c0D9d1c0E9q000D9d1c0E9d1c0" ++
    "D9d1c0E9d1c0D9d1c0E9d1c0D9d1c0E9d1c0D9d1c0E9d1c0D9q000Easw00D7x6o0Easw00D7x6o0Easw00D7x6o0Eb" ++
    "5uo0D7k800Eb5uo0D7k800Eb5uo0D7x6o0Easw00D7x6o0Easw00D7x6o0Eb5uo0D7k800Eb5uo0D7k800Eb5uo0D7k8" ++
    "00Eb5uo0D7x6o0Easw00D7x6o0Easw00D7x6o0Eb5uo0D7k800Eb5uo0D7k800Eb5uo0D7x6o0Easw00D7x6o0Easw00" ++
    "D7x6o0Easw00D7x6o0Eb5uo0D7k800Eb5uo0D7k800Eb5uo0D7x6o0Easw00D7x6o0Easw00D7x6o0Eb5uo0D7k800Eb" ++
    "5uo0D7k800Eb5uo0D7x6o0Easw00D7x6o0Easw00D7x6o0Easw00D7x6o0Eb5uo0D7k800Eb5uo0D7k800Eb5uo0D7x6" ++
    "o0Easw00D7x6o0Easw00D7x6o0Eb5uo0D7k800Eb5uo0D7k800Eb5uo0D7k800Eb5uo0D7x6o0Easw00D7x6o0Easw00" ++
    "D|CET-1CEST,M3.5.0,M10.5.0/3"),
  ("Europe/Ulyanovsk",
    "11616,10800,18000d,14400,14400,18000d,14400d,10800,10800d,7200,14400d,14400|-qcx400B5q5zo0Dq" ++
    "i27w0C9et80D9d440C9et80D9d440C9et80D9eys0C9d6w0E9d1c0F9d1c0E9d1c0F9d1c0E9d1c0F9d1c0E9d1c0F9d" ++
    "1c0E9d1c0G9d440H9d1c0G9q000H9d1c0I9d440J5reo0H3ljw0G9d1c0H9d1c0G9d1c0H9d1c0G9d1c0H9d1c0G9d1c" ++
    "0H9q000Gasw00H7x6o0Gasw00H7x6o0Gasw00H7x6o0Gb5uo0H7k800Gb5uo0H7k800Gb5uo0H7x6o0Gasw00H7x6o0G" ++
    "asw00H7x6o0Gb5uo0H7k800Gb5uo0H7k800Gb5uo0H7k800Gb5uo0H7x6o0Gasw00H7x6o0Gasw00H7x6o0Gb5uo0H7k" ++
    "800E1vbzw0Hqnc40EbdvvrjE|<+04>-4"),
  ("Europe/Vaduz",
    "2284,7200d,3600,7200d,3600|-13g44fgCohmxrgB7x6o0Casw00B7x6o0Ck2zus0D9d1c0E9d1c0D9d1c0E9d1c0D" ++
    "9d1c0E9d1c0D9q000E9d1c0D9d1c0E9d1c0D9d1c0E9d1c0D9d1c0E9d1c0D9d1c0E9d1c0D9d1c0E9d1c0D9q000E9d" ++
    "1c0D9d1c0E9d1c0D9d1c0E9d1c0D9d1c0E9d1c0D9d1c0E9d1c0D9d1c0E9q000Dasw00E7x6o0Dasw00E7x6o0Dasw0" ++
    "0E7x6o0Db5uo0E7k800Db5uo0E7k800Db5uo0E7x6o0Dasw00E7x6o0Dasw00E7x6o0Db5uo0E7k800Db5uo0E7k800D" ++
    "b5uo0E7k800Db5uo0E7x6o0Dasw00E7x6o0Dasw00E7x6o0Db5uo0E7k800Db5uo0E7k800Db5uo0E7x6o0Dasw00E7x" ++
    "6o0Dasw00E7x6o0Dasw00E7x6o0Db5uo0E7k800Db5uo0E7k800Db5uo0E7x6o0Dasw00E7x6o0Dasw00E7x6o0Db5uo" ++
    "0E7k800Db5uo0E7k800Db5uo0E7x6o0Dasw00E7x6o0Dasw00E7x6o0Dasw00E7x6o0Db5uo0E7k800Db5uo0E7k800D" ++
    "b5uo0E7x6o0Dasw00E7x6o0Dasw00E7x6o0Db5uo0E7k800Db5uo0E7k800Db5uo0E7k800Db5uo0E7x6o0Dasw00E7x" ++
    "6o0Dasw00E|CET-1CEST,M3.5.0,M10.5.0/3"),
  ("Europe/Vienna",
    "3921,7200d,3600,7200d,3600,7200d,3600|-14211oxCc1n1gxB7ves0Ca4yw0D7x6o0Easw00D7x6o0Et6000D8a" ++
    "5c0Ea7a800D1cm000E7k800D9q000E9d1c0D9d1c0E9d1c0Diio0Eivmo0D91xc0E9b6o0D9d1c0Ea2yo0D8n400Egfy" ++
    "yg0B8zzw0C9d9o0F9d1c0G9d1c0F9d1c0G9d1c0F9d1c0G9d1c0F9q000G9d1c0F9d1c0G9d1c0F9d1c0G9d1c0F9d1c" ++
    "0G9d1c0F9d1c0G9d1c0F9d1c0G9d1c0F9q000G9d1c0F9d1c0G9d1c0F9d1c0G9d1c0F9d1c0G9d1c0F9d1c0G9d1c0F" ++
    "9d1c0G9q000Fasw00G7x6o0Fasw00G7x6o0Fasw00G7x6o0Fb5uo0G7k800Fb5uo0G7k800Fb5uo0G7x6o0Fasw00G7x" ++
    "6o0Fasw00G7x6o0Fb5uo0G7k800Fb5uo0G7k800Fb5uo0G7k800Fb5uo0G7x6o0Fasw00G7x6o0Fasw00G7x6o0Fb5uo" ++
    "0G7k800Fb5uo0G7k800Fb5uo0G7x6o0Fasw00G7x6o0Fasw00G7x6o0Fasw00G7x6o0Fb5uo0G7k800Fb5uo0G7k800F" ++
    "b5uo0G7x6o0Fasw00G7x6o0Fasw00G7x6o0Fb5uo0G7k800Fb5uo0G7k800Fb5uo0G7x6o0Fasw00G7x6o0Fasw00G7x" ++
    "6o0Fasw00G7x6o0Fb5uo0G7k800Fb5uo0G7k800Fb5uo0G7x6o0Fasw00G7x6o0Fasw00G7x6o0Fb5uo0G7k800Fb5uo" ++
    "0G7k800Fb5uo0G7k800Fb5uo0G7x6o0Fasw00G7x6o0Fasw00G|CET-1CEST,M3.5.0,M10.5.0/3"),
  ("Europe/Vilnius",
    "6076,5040,5736,3600,7200,10800,3600,7200d,7200d,14400d,10800,14400d,10800d,7200,7200d,3600,7" ++
    "200,10800d|-1ayy7csBjb5y4sC1g224oDe75ncE4kqk0Dacbs40Fgpp40Ipits0G7k800H9q000G9d1c0H65zo0Fj4v" ++
    "x80J9et80F9d440J9et80F9d440J9et80F9eys0J9d6w0K9d1c0L9d1c0K9d1c0L9d1c0K9d1c0L9d1c0K9d1c0L9d1c" ++
    "0K9d1c0M9d440N9d1c0M9q000N9d1c0M9d1c0N9d1c0M9d1c0N9d1c0M9d1c0N9d1c0M9d1c0N9d1c0M9d1c0N9q000M" ++
    "asw00N7x6o0Masw00N7x9g0Oasw00P7x6o0Ob5uo0Q1s3eo0Rasw00Q7x6o0Rb5uo0Q7k800Rb5uo0Q7k800Rb5uo0Q7" ++
    "k800Rb5uo0Q7x6o0Rasw00Q7x6o0Rasw00Q7x6o0Rb5uo0Q7k800Rb5uo0Q7k800Rb5uo0Q7x6o0Rasw00Q7x6o0Rasw" ++
    "00Q7x6o0Rasw00Q7x6o0Rb5uo0Q7k800Rb5uo0Q7k800Rb5uo0Q7x6o0Rasw00Q7x6o0Rasw00Q7x6o0Rb5uo0Q7k800" ++
    "Rb5uo0Q7k800Rb5uo0Q7x6o0Rasw00Q7x6o0Rasw00Q7x6o0Rasw00Q7x6o0Rb5uo0Q7k800Rb5uo0Q7k800Rb5uo0Q7" ++
    "x6o0Rasw00Q7x6o0Rasw00Q7x6o0Rb5uo0Q7k800Rb5uo0Q7k800Rb5uo0Q7k800Rb5uo0Q7x6o0Rasw00Q7x6o0Rasw" ++
    "00Q|EET-2EEST,M3.5.0/3,M10.5.0/4"),
  ("Europe/Volgograd",
    "10660,10800,14400,18000d,14400,18000d,14400d,10800,14400,10800|-q3cw84B5glrw4Cqi27w0D9et80C9" ++
    "d440D9et80C9d440D9et80C9eys0D9d6w0E9d1c0F9d1c0E9d1c0F9d1c0E9d1c0F9d1c0E9d1c0G9d440H9d1c0G9d1" ++
    "c0H9d1c0G9q000H9d1c0Eipzw0G9d440H9d1c0G9d1c0H9d1c0G9d1c0H9d1c0G9d1c0H9q000Gasw00H7x6o0Gasw00" ++
    "H7x6o0Gasw00H7x6o0Gb5uo0H7k800Gb5uo0H7k800Gb5uo0H7x6o0Gasw00H7x6o0Gasw00H7x6o0Gb5uo0H7k800Gb" ++
    "5uo0H7k800Gb5uo0H7k800Gb5uo0H7x6o0Gasw00H7x6o0Gasw00H7x6o0Gb5uo0H7k800I1vbzw0H239c40E14oqk0H" ++
    "|MSK-3"),
  ("Europe/Warsaw",
    "5040,5040,7200d,3600,7200d,3600,10800d,7200,7200,7200d,3600|-1ayy6k0Biko800Ddvyc0C7ves0Da4yw" ++
    "0E7x6o0Fasw00E7x6o0Iaunw0G7x6o0H1evbs0D9fcwc0C18cao0F7k800E9q000F9d1c0E9gnw0Dan980C9kd80D8fs" ++
    "40E922w0Far1c0E7x6o0Fa2yo0E8n400F9q000E902o0F4013w0E64dc0F9d1c0E9d1c0Fclpc0E6hc00F9d1c0E9d1c" ++
    "0Fc8qo0E6hc00Fc8qo0E6hc00Fc8qo0E6hc00Fclpc0E64dc0F6j4tc0E902o0F9q000E9d1c0F9d1c0E9d1c0F9q000" ++
    "E902o0F9d1c0E9d1c0F9d1c0E9d1c0F9d1c0E9d1c0F9d1c0E9q000F9d1c0E9d1c0F9d1c0E9d1c0F9d1c0E9d1c0F9" ++
    "d440J9d1c0K9d1c0J9d1c0K9d1c0J9q000K9d1c0J9d1c0K9d1c0J9d1c0K9d1c0J9d1c0K9d1c0J9d1c0K9d1c0J9d1" ++
    "c0K9q000Jasw00K7x6o0Jasw00K7x6o0Jasw00K7x6o0Jb5uo0K7k800Jb5uo0K7k800Jb5uo0K7x6o0Jasw00K7x6o0" ++
    "Jasw00K7x6o0Jb5uo0K7k800Jb5uo0K7k800Jb5uo0K7k800Jb5uo0K7x6o0Jasw00K7x6o0Jasw00K7x6o0Jb5uo0K7" ++
    "k800Jb5uo0K7k800Jb5uo0K7x6o0Jasw00K7x6o0Jasw00K7x6o0Jasw00K7x6o0Jb5uo0K7k800Jb5uo0K7k800Jb5u" ++
    "o0K7x6o0Jasw00K7x6o0Jasw00K7x6o0Jb5uo0K7k800Jb5uo0K7k800Jb5uo0K7x6o0Jasw00K7x6o0Jasw00K7x6o0" ++
    "Jasw00K7x6o0Jb5uo0K7k800Jb5uo0K7k800Jb5uo0K7x6o0Jasw00K7x6o0Jasw00K7x6o0Jb5uo0K7k800Jb5uo0K7" ++
    "k800Jb5uo0K7k800Jb5uo0K7x6o0Jasw00K7x6o0Jasw00K|CET-1CEST,M3.5.0,M10.5.0/3"),
  ("Europe/Zagreb",
    "3832,3600,3600,7200d,7200d,7200d,3600|-18vslmgBtwhmqgEswz00C7k800D9q000C9d1c0D9d1c0C9d1c0D8l" ++
    "9c0Cjl1hc0F9d1c0G9d1c0F9q000G9d1c0F9d1c0G9d1c0F9d1c0G9d1c0F9d1c0G9d1c0F9d1c0G9d1c0F9d1c0G9d1" ++
    "c0F9q000G9d1c0F9d1c0G9d1c0F9d1c0G9d1c0F9d1c0G9d1c0F9d1c0G9d1c0F9d1c0G9q000Fasw00G7x6o0Fasw00" ++
    "G7x6o0Fasw00G7x6o0Fb5uo0G7k800Fb5uo0G7k800Fb5uo0G7x6o0Fasw00G7x6o0Fasw00G7x6o0Fb5uo0G7k800Fb" ++
    "5uo0G7k800Fb5uo0G7k800Fb5uo0G7x6o0Fasw00G7x6o0Fasw00G7x6o0Fb5uo0G7k800Fb5uo0G7k800Fb5uo0G7x6" ++
    "o0Fasw00G7x6o0Fasw00G7x6o0Fasw00G7x6o0Fb5uo0G7k800Fb5uo0G7k800Fb5uo0G7x6o0Fasw00G7x6o0Fasw00" ++
    "G7x6o0Fb5uo0G7k800Fb5uo0G7k800Fb5uo0G7x6o0Fasw00G7x6o0Fasw00G7x6o0Fasw00G7x6o0Fb5uo0G7k800Fb" ++
    "5uo0G7k800Fb5uo0G7x6o0Fasw00G7x6o0Fasw00G7x6o0Fb5uo0G7k800Fb5uo0G7k800Fb5uo0G7k800Fb5uo0G7x6" ++
    "o0Fasw00G7x6o0Fasw00G|CET-1CEST,M3.5.0,M10.5.0/3"),
  ("Europe/Zurich",
    "2048,1786,7200d,3600,7200d,3600|-1os49kwBlc05jaDohmxdmC7x6o0Dasw00C7x6o0Dk2zus0E9d1c0F9d1c0E" ++
    "9d1c0F9d1c0E9d1c0F9d1c0E9q000F9d1c0E9d1c0F9d1c0E9d1c0F9d1c0E9d1c0F9d1c0E9d1c0F9d1c0E9d1c0F9d" ++
    "1c0E9q000F9d1c0E9d1c0F9d1c0E9d1c0F9d1c0E9d1c0F9d1c0E9d1c0F9d1c0E9d1c0F9q000Easw00F7x6o0Easw0" ++
    "0F7x6o0Easw00F7x6o0Eb5uo0F7k800Eb5uo0F7k800Eb5uo0F7x6o0Easw00F7x6o0Easw00F7x6o0Eb5uo0F7k800E" ++
    "b5uo0F7k800Eb5uo0F7k800Eb5uo0F7x6o0Easw00F7x6o0Easw00F7x6o0Eb5uo0F7k800Eb5uo0F7k800Eb5uo0F7x" ++
    "6o0Easw00F7x6o0Easw00F7x6o0Easw00F7x6o0Eb5uo0F7k800Eb5uo0F7k800Eb5uo0F7x6o0Easw00F7x6o0Easw0" ++
    "0F7x6o0Eb5uo0F7k800Eb5uo0F7k800Eb5uo0F7x6o0Easw00F7x6o0Easw00F7x6o0Easw00F7x6o0Eb5uo0F7k800E" ++
    "b5uo0F7k800Eb5uo0F7x6o0Easw00F7x6o0Easw00F7x6o0Eb5uo0F7k800Eb5uo0F7k800Eb5uo0F7k800Eb5uo0F7x" ++
    "6o0Easw00F7x6o0Easw00F|CET-1CEST,M3.5.0,M10.5.0/3")]

end MessageTemplate.Zone
