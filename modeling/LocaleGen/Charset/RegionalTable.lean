import LocaleGen.Charset.StandardTable

/-!
# Encodings of single makers and countries

Encodings of one byte for each character that never became a standard elsewhere.
-/

namespace LocaleGen.Charset

/-- The scripts of another graphical system. -/
def macTables : List ByteTable :=
  [⟨["mac_arabic"],
     ["00C400A000C700C900D100D600DC00E100E000E200E406BA00AB00E700E900E800EA00EB00ED202600EE00EF00F100F3",
      "00BB00F400F600F700FA00F900FB00FC00200021002200230024066A0026002700280029002A002B060C002D002E002F",
      "0660066106620663066406650666066706680669003A061B003C003D003E061F274A0621062206230624062506260627",
      "06280629062A062B062C062D062E062F0630063106320633063406350636063706380639063A005B005C005D005E005F",
      "0640064106420643064406450646064706480649064A064B064C064D064E064F065006510652067E0679068606D506A4",
      "06AF06880691007B007C007D069806D2"]⟩,
   ⟨["mac_croatian"],
     ["00C400C500C700C900D100D600DC00E100E000E200E400E300E500E700E900E800EA00EB00ED00EC00EE00EF00F100F3",
      "00F200F400F600F500FA00F900FB00FC202000B000A200A300A7202200B600DF00AE0160212200B400A82260017D00D8",
      "221E00B122642265220600B522022211220F0161222B00AA00BA03A9017E00F800BF00A100AC221A01922248010600AB",
      "010C202600A000C000C300D50152015301102014201C201D2018201900F725CAF8FF00A9204420AC2039203A00C600BB",
      "201300B7201A201E203000C2010700C1010D00C800CD00CE00CF00CC00D300D4011100D200DA00DB00D9013102C602DC",
      "00AF03C000CB02DA00B800CA00E602C7"]⟩,
   ⟨["mac_cyrillic", "maccyrillic"],
     ["0410041104120413041404150416041704180419041A041B041C041D041E041F04200421042204230424042504260427",
      "04280429042A042B042C042D042E042F202000B0049000A300A7202200B6040600AE00A9212204020452226004030453",
      "221E00B122642265045600B504910408040404540407045704090459040A045A0458040500AC221A01922248220600AB",
      "00BB202600A0040B045B040C045C045520132014201C201D2018201900F7201E040E045E040F045F211604010451044F",
      "0430043104320433043404350436043704380439043A043B043C043D043E043F04400441044204430444044504460447",
      "04480449044A044B044C044D044E20AC"]⟩,
   ⟨["mac_farsi"],
     ["00C400A000C700C900D100D600DC00E100E000E200E406BA00AB00E700E900E800EA00EB00ED202600EE00EF00F100F3",
      "00BB00F400F600F700FA00F900FB00FC00200021002200230024066A0026002700280029002A002B060C002D002E002F",
      "06F006F106F206F306F406F506F606F706F806F9003A061B003C003D003E061F274A0621062206230624062506260627",
      "06280629062A062B062C062D062E062F0630063106320633063406350636063706380639063A005B005C005D005E005F",
      "0640064106420643064406450646064706480649064A064B064C064D064E064F065006510652067E0679068606D506A4",
      "06AF06880691007B007C007D069806D2"]⟩,
   ⟨["mac_greek", "macgreek"],
     ["00C400B900B200C900B300D600DC038500E000E200E4038400A800E700E900E800EA00EB00A3212200EE00EF202200BD",
      "203000F400F600A620AC00F900FB00FC2020039303940398039B039E03A000DF00AE00A903A303AA00A7226000B000B7",
      "039100B12264226500A503920395039603970399039A039C03A603AB03A803A903AC039D00AC039F03A1224803A400AB",
      "00BB202600A003A503A703860388015320132015201C201D2018201900F70389038A038C038E03AD03AE03AF03CC038F",
      "03CD03B103B203C803B403B503C603B303B703B903BE03BA03BB03BC03BD03BF03C003CE03C103C303C403B803C903C2",
      "03C703C503B603CA03CB039003B000AD"]⟩,
   ⟨["mac_iceland", "maciceland"],
     ["00C400C500C700C900D100D600DC00E100E000E200E400E300E500E700E900E800EA00EB00ED00EC00EE00EF00F100F3",
      "00F200F400F600F500FA00F900FB00FC00DD00B000A200A300A7202200B600DF00AE00A9212200B400A8226000C600D8",
      "221E00B12264226500A500B522022211220F03C0222B00AA00BA03A900E600F800BF00A100AC221A01922248220600AB",
      "00BB202600A000C000C300D50152015320132014201C201D2018201900F725CA00FF0178204420AC00D000F000DE00FE",
      "00FD00B7201A201E203000C200CA00C100CB00C800CD00CE00CF00CC00D300D4F8FF00D200DA00DB00D9013102C602DC",
      "00AF02D802D902DA00B802DD02DB02C7"]⟩,
   ⟨["mac_roman", "macintosh", "macroman"],
     ["00C400C500C700C900D100D600DC00E100E000E200E400E300E500E700E900E800EA00EB00ED00EC00EE00EF00F100F3",
      "00F200F400F600F500FA00F900FB00FC202000B000A200A300A7202200B600DF00AE00A9212200B400A8226000C600D8",
      "221E00B12264226500A500B522022211220F03C0222B00AA00BA03A900E600F800BF00A100AC221A01922248220600AB",
      "00BB202600A000C000C300D50152015320132014201C201D2018201900F725CA00FF0178204420AC2039203AFB01FB02",
      "202100B7201A201E203000C200CA00C100CB00C800CD00CE00CF00CC00D300D4F8FF00D200DA00DB00D9013102C602DC",
      "00AF02D802D902DA00B802DD02DB02C7"]⟩,
   ⟨["mac_romanian"],
     ["00C400C500C700C900D100D600DC00E100E000E200E400E300E500E700E900E800EA00EB00ED00EC00EE00EF00F100F3",
      "00F200F400F600F500FA00F900FB00FC202000B000A200A300A7202200B600DF00AE00A9212200B400A8226001020218",
      "221E00B12264226500A500B522022211220F03C0222B00AA00BA03A90103021900BF00A100AC221A01922248220600AB",
      "00BB202600A000C000C300D50152015320132014201C201D2018201900F725CA00FF0178204420AC2039203A021A021B",
      "202100B7201A201E203000C200CA00C100CB00C800CD00CE00CF00CC00D300D4F8FF00D200DA00DB00D9013102C602DC",
      "00AF02D802D902DA00B802DD02DB02C7"]⟩,
   ⟨["mac_turkish", "macturkish"],
     ["00C400C500C700C900D100D600DC00E100E000E200E400E300E500E700E900E800EA00EB00ED00EC00EE00EF00F100F3",
      "00F200F400F600F500FA00F900FB00FC202000B000A200A300A7202200B600DF00AE00A9212200B400A8226000C600D8",
      "221E00B12264226500A500B522022211220F03C0222B00AA00BA03A900E600F800BF00A100AC221A01922248220600AB",
      "00BB202600A000C000C300D50152015320132014201C201D2018201900F725CA00FF0178011E011F01300131015E015F",
      "202100B7201A201E203000C200CA00C100CB00C800CD00CE00CF00CC00D300D4F8FF00D200DA00DB00D9F8A002C602DC",
      "00AF02D802D902DA00B802DD02DB02C7"]⟩,
   ⟨["mac_latin2", "mac_centeuro", "maccentraleurope", "maclatin2"],
     ["00C40100010100C9010400D600DC00E10105010C00E4010D0106010700E90179017A010E00ED010F01120113011600F3",
      "011700F400F600F500FA011A011B00FC202000B0011800A300A7202200B600DF00AE00A92122011900A822600123012E",
      "012F012A22642265012B0136220222110142013B013C013D013E0139013A01450146014300AC221A01440147220600AB",
      "00BB202600A00148015000D50151014C20132014201C201D2018201900F725CA014D0154015501582039203A01590156",
      "01570160201A201E0161015A015B00C10164016500CD017D017E016A00D300D4016B016E00DA016F0170017101720173",
      "00DD00FD0137017B0141017C012202C7"]⟩]

/-- Encodings of single countries and makers. -/
def regionalTables : List ByteTable :=
  [⟨["koi8_r", "cskoi8r"],
     ["25002502250C251025142518251C2524252C2534253C258025842588258C2590259125922593232025A02219221A2248",
      "2264226500A0232100B000B200B700F725502551255204512553255425552556255725582559255A255B255C255D255E",
      "255F25602561040125622563256425652566256725682569256A256B256C00A9044E0430043104460434043504440433",
      "044504380439043A043B043C043D043E043F044F044004410442044304360432044C044B04370448044D04490447044A",
      "042E0410041104260414041504240413042504180419041A041B041C041D041E041F042F042004210422042304160412",
      "042C042B04170428042D04290427042A"]⟩,
   ⟨["koi8_t"],
     ["049B0493201A0492201E202620202021FFFD203004B3203904B204B704B6FFFD049A20182019201C201D202220132014",
      "FFFD2122FFFD203AFFFDFFFDFFFDFFFDFFFD04EF04EE045100A404E300A600A7FFFDFFFDFFFD00AB00AC00AD00AEFFFD",
      "00B000B100B20401FFFD04E200B600B7FFFD2116FFFD00BBFFFDFFFDFFFD00A9044E0430043104460434043504440433",
      "044504380439043A043B043C043D043E043F044F044004410442044304360432044C044B04370448044D04490447044A",
      "042E0410041104260414041504240413042504180419041A041B041C041D041E041F042F042004210422042304160412",
      "042C042B04170428042D04290427042A"]⟩,
   ⟨["koi8_u"],
     ["25002502250C251025142518251C2524252C2534253C258025842588258C2590259125922593232025A02219221A2248",
      "2264226500A0232100B000B200B700F725502551255204510454255404560457255725582559255A255B0491255D255E",
      "255F25602561040104042563040604072566256725682569256A0490256C00A9044E0430043104460434043504440433",
      "044504380439043A043B043C043D043E043F044F044004410442044304360432044C044B04370448044D04490447044A",
      "042E0410041104260414041504240413042504180419041A041B041C041D041E041F042F042004210422042304160412",
      "042C042B04170428042D04290427042A"]⟩,
   ⟨["palmos"],
     ["20AC0081201A0192201E20262020202102C62030016020390152266626632665266020182019201C201D202220132014",
      "02DC21220161009B0153009D009E017800A000A100A200A300A400A500A600A700A800A900AA00AB00AC00AD00AE00AF",
      "00B000B100B200B300B400B500B600B700B800B900BA00BB00BC00BD00BE00BF00C000C100C200C300C400C500C600C7",
      "00C800C900CA00CB00CC00CD00CE00CF00D000D100D200D300D400D500D600D700D800D900DA00DB00DC00DD00DE00DF",
      "00E000E100E200E300E400E500E600E700E800E900EA00EB00EC00ED00EE00EF00F000F100F200F300F400F500F600F7",
      "00F800F900FA00FB00FC00FD00FE00FF"]⟩,
   ⟨["hp_roman8", "cp1051", "ibm1051", "r8", "roman8"],
     ["0080008100820083008400850086008700880089008A008B008C008D008E008F00900091009200930094009500960097",
      "00980099009A009B009C009D009E009F00A000C000C200C800CA00CB00CE00CF00B402CB02C600A802DC00D900DB20A4",
      "00AF00DD00FD00B000C700E700D100F100A100BF00A400A300A500A7019200A200E200EA00F400FB00E100E900F300FA",
      "00E000E800F200F900E400EB00F600FC00C500EE00D800C600E500ED00F800E600C400EC00D600DC00C900EF00DF00D4",
      "00C100C300E300D000F000CD00CC00D300D200D500F50160016100DA017800FF00DE00FE00B700B500B600BE201400BC",
      "00BD00AA00BA00AB25A000BB00B1FFFD"]⟩,
   ⟨["ptcp154", "cp154", "csptcp154", "cyrillic_asian", "pt154"],
     ["0496049204EE0493201E202604B604AE04B204AF04A004E204A2049A04BA04B8049720182019201C201D202220132014",
      "04B304B704A104E304A3049B04BB04B900A0040E045E040804E8049804B000A7040100A904D800AB00AC04EF00AE049C",
      "00B004B104060456049904E900B600B70451211604D900BB045804AA04AB049D04100411041204130414041504160417",
      "04180419041A041B041C041D041E041F0420042104220423042404250426042704280429042A042B042C042D042E042F",
      "0430043104320433043404350436043704380439043A043B043C043D043E043F04400441044204430444044504460447",
      "04480449044A044B044C044D044E044F"]⟩,
   ⟨["tis_620", "iso_ir_166", "tis620", "tis_620_0", "tis_620_2529_0", "tis_620_2529_1"],
     ["0080008100820083008400850086008700880089008A008B008C008D008E008F00900091009200930094009500960097",
      "00980099009A009B009C009D009E009FFFFD0E010E020E030E040E050E060E070E080E090E0A0E0B0E0C0E0D0E0E0E0F",
      "0E100E110E120E130E140E150E160E170E180E190E1A0E1B0E1C0E1D0E1E0E1F0E200E210E220E230E240E250E260E27",
      "0E280E290E2A0E2B0E2C0E2D0E2E0E2F0E300E310E320E330E340E350E360E370E380E390E3AFFFDFFFDFFFDFFFD0E3F",
      "0E400E410E420E430E440E450E460E470E480E490E4A0E4B0E4C0E4D0E4E0E4F0E500E510E520E530E540E550E560E57",
      "0E580E590E5A0E5BFFFDFFFDFFFDFFFD"]⟩,
   ⟨["kz1048", "kz_1048", "rk1048", "strk1048_2002"],
     ["04020403201A0453201E20262020202120AC203004092039040A049A04BA040F045220182019201C201D202220132014",
      "FFFD21220459203A045A049B04BB045F00A004B004B104D800A404E800A600A7040100A9049200AB00AC00AD00AE04AE",
      "00B000B10406045604E900B500B600B704512116049300BB04D904A204A304AF04100411041204130414041504160417",
      "04180419041A041B041C041D041E041F0420042104220423042404250426042704280429042A042B042C042D042E042F",
      "0430043104320433043404350436043704380439043A043B043C043D043E043F04400441044204430444044504460447",
      "04480449044A044B044C044D044E044F"]⟩]

end LocaleGen.Charset
